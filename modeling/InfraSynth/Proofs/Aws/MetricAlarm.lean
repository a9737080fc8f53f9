import InfraSynth.Aws.MetricAlarm.Check
import InfraSynth.Proofs.Collection
import InfraSynth.Proofs.Resource
import InfraSynth.Proofs.Check

/-!
# Accepted alarms

An alarm watches a single metric or a list of queries.  Which of the two it does is not
an attribute of its own; it follows from which attributes are present.  Several checks
together make sure that every accepted alarm does exactly one of them, and does it
completely, `wellFormed_of_validate`.

A threshold that is a band of expected values is told by the id of what gives the band.
An alarm with queries takes the band from one of them, and there the id has to be that of
a query.  An alarm of a single metric has no queries to take it from, and its id is not
looked up: `namesQuery_iff_of_validate` says that the id of an accepted alarm is that of
exactly one query if and only if the alarm has queries, and `validate_bandlessAlarm` is
about an accepted alarm of a single metric.

## Main definitions

* `MetricAlarm.WatchesMetric` and `MetricAlarm.WatchesQueries` are the two modes.
* `MetricAlarm.WellFormed` is what an accepted alarm is known to keep to.
-/

namespace InfraSynth.Aws

/-! ## Periods -/

/-- A period of 10 or 30 seconds, or of full minutes. -/
def IsPeriod (period : UInt32) : Prop :=
  period = 10 ∨ period = 30 ∨ ∃ minutes, 0 < minutes ∧ period.toNat = 60 * minutes

/-- The periods of less than a minute. -/
def IsShort (period : UInt32) : Prop :=
  period = 10 ∨ period = 30

theorem checkPeriod_eq_nil_iff {field : String} {period : UInt32} :
    checkPeriod field period = [] ↔ IsPeriod period := by
  have hminutes : (60 ≤ period ∧ period % 60 = 0) ↔
      ∃ minutes, 0 < minutes ∧ period.toNat = 60 * minutes := by
    rw [UInt32.le_iff_toNat_le, ← UInt32.toNat_inj, UInt32.toNat_mod]
    change 60 ≤ period.toNat ∧ period.toNat % 60 = 0 ↔ _
    constructor
    · rintro ⟨hle, hmod⟩
      exact ⟨period.toNat / 60, by omega, by omega⟩
    · rintro ⟨minutes, hpos, heq⟩
      omega
  simp [checkPeriod, IsPeriod, ← hminutes, or_assoc]

theorem IsPeriod.lt_minute_iff {period : UInt32} (h : IsPeriod period) :
    period < 60 ↔ IsShort period := by
  constructor
  · intro hlt
    rcases h with h | h | ⟨minutes, hpos, heq⟩
    · exact .inl h
    · exact .inr h
    · have hlt' : period.toNat < 60 := UInt32.lt_iff_toNat_lt.mp hlt
      omega
  · rintro (rfl | rfl) <;> decide

/-! ## Queries -/

namespace MetricQuery

variable {query : MetricQuery} {path : String}

/-- The periods that are given in a query. -/
def periods (query : MetricQuery) : List UInt32 :=
  query.period.toList ++ query.metric.toList.map (·.period)

/-- How often a query takes samples: as often as its metric does, if it has one. -/
def sampling (query : MetricQuery) : Option UInt32 :=
  (query.metric.map (·.period)).or query.period

theorem mem_periods_of_mem_sampling {period : UInt32} (h : period ∈ query.sampling) :
    period ∈ query.periods := by
  cases hmetric : query.metric with
  | none => simpa [sampling, periods, hmetric] using h
  | some metric =>
      obtain rfl : metric.period = period := by simpa [sampling, hmetric] using h
      simp [periods, hmetric]

/-- A query is either an expression or a metric, and its periods are sound. -/
structure WellFormed (query : MetricQuery) : Prop where
  kind : Xor (query.expression.isSome = true) (query.metric.isSome = true)
  periods : ∀ period ∈ query.periods, IsPeriod period

theorem wellFormed_of_check (h : query.check path = []) : query.WellFormed := by
  simp only [check, QueryMetric.check, List.append_eq_nil_iff, toList_flatMap_eq_nil_iff,
    Check.exactlyOneOf_pair_eq_nil_iff, checkPeriod_eq_nil_iff] at h
  obtain ⟨⟨⟨⟨-, hkind⟩, -⟩, hperiod⟩, hmetric⟩ := h
  refine ⟨hkind, fun period hmem => ?_⟩
  rcases List.mem_append.mp hmem with hown | hmetrics
  · exact hperiod period (Option.mem_toList.mp hown)
  · obtain ⟨metric, hgiven, rfl⟩ := List.mem_map.mp hmetrics
    exact (hmetric metric (Option.mem_toList.mp hgiven)).2

end MetricQuery

/-! ## Modes -/

namespace MetricAlarm

variable {alarm : MetricAlarm}

/-- The alarm watches a single metric: there are no queries, the metric and its period
are given, and so is one statistic. -/
structure WatchesMetric (alarm : MetricAlarm) : Prop where
  queries : alarm.queries = []
  metricName : alarm.metricName.isSome = true
  space : alarm.space.isSome = true
  period : alarm.period.isSome = true
  statistic : Xor (alarm.statistic.isSome = true) (alarm.extendedStatistic.isSome = true)

/-- The alarm watches queries: there are 1 to 20 of them under different names, one of
them gives the result, and no attribute of a single metric is given. -/
structure WatchesQueries (alarm : MetricAlarm) : Prop where
  count : 1 ≤ alarm.queries.length ∧ alarm.queries.length ≤ 20
  distinct : (alarm.queries.map (·.id)).Nodup
  kind : ∀ query ∈ alarm.queries,
    Xor (query.expression.isSome = true) (query.metric.isSome = true)
  result : ∃ query, alarm.queries.filter (·.returnData) = [query]
  metricName : alarm.metricName = none
  space : alarm.space = none
  period : alarm.period = none
  statistic : alarm.statistic = none
  extendedStatistic : alarm.extendedStatistic = none
  unit : alarm.unit = none
  dimensions : alarm.dimensions = .empty
  lowSampleCount : alarm.lowSampleCount = none

theorem usesQueries_eq_true_iff : alarm.usesQueries = true ↔ alarm.queries ≠ [] := by
  simp [usesQueries]

theorem WatchesMetric.usesQueries_eq_false (h : alarm.WatchesMetric) :
    alarm.usesQueries = false := by
  simp [usesQueries, h.queries]

theorem WatchesQueries.queries_ne_nil (h : alarm.WatchesQueries) : alarm.queries ≠ [] :=
  List.length_pos_iff.mp h.count.1

theorem WatchesQueries.usesQueries_eq_true (h : alarm.WatchesQueries) :
    alarm.usesQueries = true :=
  usesQueries_eq_true_iff.mpr h.queries_ne_nil

/-- No alarm is in both modes. -/
theorem xor_of_watches (h : alarm.WatchesMetric ∨ alarm.WatchesQueries) :
    Xor alarm.WatchesMetric alarm.WatchesQueries := by
  rw [xor_iff_or_and_not_and]
  exact ⟨h, fun hboth => hboth.2.queries_ne_nil hboth.1.queries⟩

theorem isSingleMetric_eq_false_iff : alarm.isSingleMetric = false ↔
    alarm.metricName = none ∧ alarm.space = none ∧ alarm.period = none ∧
      alarm.statistic = none ∧ alarm.extendedStatistic = none := by
  simp [isSingleMetric, and_assoc]

/-- Without queries some attribute of a single metric is given, and then the others
are checked. -/
theorem watchesMetric_of_checkMode (h : alarm.checkMode = []) (hqueries : alarm.queries = []) :
    alarm.WatchesMetric := by
  have huses : alarm.usesQueries = false := by simp [usesQueries, hqueries]
  simp only [checkMode, List.append_eq_nil_iff, Check.exactlyOneOf_pair_eq_nil_iff, huses]
    at h
  obtain ⟨⟨hone, hsingle⟩, -⟩ := h
  obtain ⟨hgiven, -⟩ | ⟨hfalse, -⟩ := hone
  · simp only [hgiven, Bool.not_false, Bool.and_self, if_true, List.append_eq_nil_iff,
      Check.required_eq_nil_iff, Check.exactlyOneOf_pair_eq_nil_iff] at hsingle
    obtain ⟨⟨⟨hname, hspace⟩, hperiod⟩, hstatistic⟩ := hsingle
    exact ⟨hqueries, hname, hspace, hperiod, hstatistic⟩
  · exact absurd hfalse Bool.false_ne_true

theorem wellFormed_of_checkQueries (h : alarm.checkQueries = []) :
    ∀ query ∈ alarm.queries, query.WellFormed := by
  intro query hquery
  have huses : alarm.usesQueries = true :=
    usesQueries_eq_true_iff.mpr (List.ne_nil_of_mem hquery)
  simp only [checkQueries, huses, if_true, List.append_eq_nil_iff] at h
  obtain ⟨⟨⟨-, hqueries⟩, -⟩, -⟩ := h
  obtain ⟨i, hi, rfl⟩ := List.mem_iff_getElem.mp hquery
  exact MetricQuery.wellFormed_of_check (Path.flatMapItems_eq_nil_iff.mp hqueries i hi)

/-- With queries no attribute of a single metric is given. -/
theorem watchesQueries_of_checks (hmode : alarm.checkMode = [])
    (hstatistic : alarm.checkStatistic = []) (hcheck : alarm.checkQueries = [])
    (hqueries : alarm.queries ≠ []) : alarm.WatchesQueries := by
  have huses : alarm.usesQueries = true := usesQueries_eq_true_iff.mpr hqueries
  have hwell := wellFormed_of_checkQueries hcheck
  simp only [checkMode, List.append_eq_nil_iff, Check.exactlyOneOf_pair_eq_nil_iff, huses,
    if_true, Check.forbids_eq_nil_iff] at hmode
  simp only [checkQueries, huses, if_true, List.append_eq_nil_iff, Check.count_some_eq_nil_iff,
    Check.unique_eq_nil_iff, Check.that_eq_nil_iff, decide_eq_true_eq] at hcheck
  obtain ⟨⟨hone, -⟩, hdimensions, hunit⟩ := hmode
  obtain ⟨⟨⟨⟨hcount, hdistinct⟩, -⟩, hresult⟩, -⟩ := hcheck
  have hsingle : alarm.isSingleMetric = false := by
    rcases hone with ⟨-, hfalse⟩ | ⟨-, hsingle⟩
    · exact absurd trivial hfalse
    · exact Bool.eq_false_iff.mpr hsingle
  obtain ⟨hname, hspace, hperiod, hnone, hextended⟩ := isSingleMetric_eq_false_iff.mp hsingle
  have hlow : alarm.lowSampleCount = none := by
    -- it is forbidden without a percentile, and there is no statistic to be one
    simp only [checkStatistic, List.append_eq_nil_iff, toList_flatMap_eq_nil_iff,
      Check.forbids_eq_nil_iff, hextended, Option.any_none] at hstatistic
    refine Option.eq_none_iff_forall_not_mem.mpr fun evaluate hgiven => ?_
    exact (hstatistic.2 evaluate hgiven).2 ⟨trivial, rfl⟩
  have hempty : alarm.dimensions.entries = [] := by
    simpa [SortedMap.isEmpty] using hdimensions
  exact {
    count := hcount
    distinct := hdistinct
    kind := fun query hquery => (hwell query hquery).kind
    result := List.length_eq_one_iff.mp hresult
    metricName := hname
    space := hspace
    period := hperiod
    statistic := hnone
    extendedStatistic := hextended
    unit := by simpa using hunit
    dimensions := SortedMap.ext hempty
    lowSampleCount := hlow }

/-! ## Datapoints, periods and thresholds -/

/-- The periods that are given anywhere in an alarm. -/
def everyPeriod (alarm : MetricAlarm) : List UInt32 :=
  alarm.period.toList ++ alarm.queries.flatMap MetricQuery.periods

theorem datapoints_of_checkBasics (h : alarm.checkBasics = []) :
    ∀ datapoints ∈ alarm.datapointsToAlarm,
      1 ≤ datapoints ∧ datapoints ≤ alarm.evaluationPeriods := by
  simp only [checkBasics, List.append_eq_nil_iff, toList_flatMap_eq_nil_iff,
    Check.that_eq_nil_iff, decide_eq_true_eq, Check.range_eq_nil_iff] at h
  obtain ⟨⟨-, hperiods⟩, hdatapoints⟩ := h
  intro datapoints hgiven
  have hrange := hdatapoints datapoints hgiven
  have hone : (1 : UInt32).toNat = 1 := rfl
  rw [UInt32.le_iff_toNat_le, hone] at hperiods
  rw [UInt32.le_iff_toNat_le, UInt32.le_iff_toNat_le, hone]
  omega

theorem isPeriod_of_checks (hstatistic : alarm.checkStatistic = [])
    (hcheck : alarm.checkQueries = []) : ∀ period ∈ alarm.everyPeriod, IsPeriod period := by
  intro period hperiod
  rcases List.mem_append.mp hperiod with hown | hquery
  · simp only [checkStatistic, List.append_eq_nil_iff, toList_flatMap_eq_nil_iff,
      checkPeriod_eq_nil_iff] at hstatistic
    exact hstatistic.1.1 period (Option.mem_toList.mp hown)
  · obtain ⟨query, hmem, hperiod⟩ := List.mem_flatMap.mp hquery
    exact (wellFormed_of_checkQueries hcheck query hmem).periods period hperiod

/-- A band of expected values is named, and every other threshold is a number. -/
theorem checkThreshold_eq_nil_iff : alarm.checkThreshold = [] ↔
    (alarm.comparison.isAnomalyBand = true ↔ alarm.thresholdMetricId.isSome = true) ∧
      (alarm.thresholdMetricId.isSome = true ↔ alarm.threshold = none) := by
  rw [← Option.isSome_eq_false_iff.trans Option.isNone_iff_eq_none]
  simp only [checkThreshold, List.append_eq_nil_iff, Check.exactlyOneOf_pair_eq_nil_iff,
    Check.requires_eq_nil_iff, Check.forbids_eq_nil_iff]
  generalize alarm.comparison.isAnomalyBand = band, alarm.thresholdMetricId.isSome = named,
    alarm.threshold.isSome = given
  -- three flags are left
  revert band named given
  decide

/-- The periods that decide on the price are those at which samples are taken. -/
theorem mem_periods_iff (hmode : alarm.WatchesMetric ∨ alarm.WatchesQueries)
    {period : UInt32} : period ∈ alarm.periods ↔
      period ∈ alarm.period ∨ ∃ query ∈ alarm.queries, period ∈ query.sampling := by
  rcases hmode with h | h
  · simp [periods, h.usesQueries_eq_false, h.queries]
  · simp [periods, h.usesQueries_eq_true, h.period, MetricQuery.sampling]

theorem mem_everyPeriod_of_mem_periods (hmode : alarm.WatchesMetric ∨ alarm.WatchesQueries)
    {period : UInt32} (h : period ∈ alarm.periods) : period ∈ alarm.everyPeriod := by
  rw [everyPeriod, List.mem_append, List.mem_flatMap, Option.mem_toList]
  exact ((mem_periods_iff hmode).mp h).imp_right fun ⟨query, hquery, hsampling⟩ =>
    ⟨query, hquery, MetricQuery.mem_periods_of_mem_sampling hsampling⟩

theorem isHighResolution_iff (hmode : alarm.WatchesMetric ∨ alarm.WatchesQueries)
    (hperiods : ∀ period ∈ alarm.everyPeriod, IsPeriod period) :
    alarm.isHighResolution = true ↔
      (∃ period ∈ alarm.period, IsShort period) ∨
        ∃ query ∈ alarm.queries, ∃ period ∈ query.sampling, IsShort period := by
  have hshort : ∀ period ∈ alarm.periods, period < 60 ↔ IsShort period := fun period hperiod =>
    (hperiods period (mem_everyPeriod_of_mem_periods hmode hperiod)).lt_minute_iff
  calc alarm.isHighResolution = true
      ↔ ∃ period ∈ alarm.periods, period < 60 := by simp [isHighResolution]
    _ ↔ ∃ period ∈ alarm.periods, IsShort period :=
        exists_congr fun period => and_congr_right (hshort period)
    _ ↔ ∃ period, (period ∈ alarm.period ∨ ∃ query ∈ alarm.queries, period ∈ query.sampling) ∧
          IsShort period := by simp only [mem_periods_iff hmode]
    _ ↔ _ := by
        constructor
        · rintro ⟨period, hown | ⟨query, hquery, hsampling⟩, h⟩
          · exact .inl ⟨period, hown, h⟩
          · exact .inr ⟨query, hquery, period, hsampling, h⟩
        · rintro (⟨period, hown, h⟩ | ⟨query, hquery, period, hsampling, h⟩)
          · exact ⟨period, .inl hown, h⟩
          · exact ⟨period, .inr ⟨query, hquery, hsampling⟩, h⟩

theorem metricCount_bounds (hmode : alarm.WatchesMetric ∨ alarm.WatchesQueries) :
    1 ≤ alarm.metricCount ∧ alarm.metricCount ≤ 20 := by
  rcases hmode with h | h
  · simp [metricCount, h.usesQueries_eq_false]
  · have hle : (alarm.queries.filter (·.metric.isSome)).length ≤ alarm.queries.length :=
      List.length_filter_le _ _
    have hcount := h.count
    rw [metricCount, if_pos h.usesQueries_eq_true]
    omega

/-! ## Accepted alarms -/

theorem violations_eq_nil_of_validate (h : Resource.validate alarm = .ok ()) :
    alarm.violations = [] := by
  rw [Resource.validate_eq_ok_iff] at h
  exact h

/-- What an accepted alarm is known to keep to. -/
structure WellFormed (alarm : MetricAlarm) : Prop where
  mode : Xor alarm.WatchesMetric alarm.WatchesQueries
  periods : ∀ period ∈ alarm.everyPeriod, IsPeriod period
  band : alarm.comparison.isAnomalyBand = true ↔ alarm.thresholdMetricId.isSome = true
  threshold : alarm.thresholdMetricId.isSome = true ↔ alarm.threshold = none
  datapoints : ∀ datapoints ∈ alarm.datapointsToAlarm,
    1 ≤ datapoints ∧ datapoints ≤ alarm.evaluationPeriods
  resolution : alarm.computed.isHighResolution = true ↔
    (∃ period ∈ alarm.period, IsShort period) ∨
      ∃ query ∈ alarm.queries, ∃ period ∈ query.sampling, IsShort period
  metricCount : 1 ≤ alarm.computed.metricCount ∧ alarm.computed.metricCount ≤ 20

/-- **An accepted alarm watches either a single metric or queries.**  Besides that, its
periods are sound, the threshold fits the comparison, the datapoints fit the number of
periods, and what is computed of the metrics follows from the mode. -/
theorem wellFormed_of_validate (h : Resource.validate alarm = .ok ()) : alarm.WellFormed := by
  have hnone := violations_eq_nil_of_validate h
  simp only [violations, List.append_eq_nil_iff] at hnone
  obtain ⟨⟨⟨⟨⟨⟨⟨⟨hbasics, hthreshold⟩, hmode⟩, hstatistic⟩, hcheck⟩, -⟩, -⟩, -⟩, -⟩ := hnone
  have hmodes : alarm.WatchesMetric ∨ alarm.WatchesQueries := by
    by_cases hqueries : alarm.queries = []
    · exact .inl (watchesMetric_of_checkMode hmode hqueries)
    · exact .inr (watchesQueries_of_checks hmode hstatistic hcheck hqueries)
  have hperiods := isPeriod_of_checks hstatistic hcheck
  obtain ⟨hband, hnumber⟩ := checkThreshold_eq_nil_iff.mp hthreshold
  exact {
    mode := xor_of_watches hmodes
    periods := hperiods
    band := hband
    threshold := hnumber
    datapoints := datapoints_of_checkBasics hbasics
    resolution := isHighResolution_iff hmodes hperiods
    metricCount := metricCount_bounds hmodes }

/-- An alarm for values above a band, without anything to watch. -/
def aboveBandAlarm : MetricAlarm where
  alarmName := "latency"
  alarmDescription := none
  comparison := .aboveBand
  evaluationPeriods := 2
  datapointsToAlarm := none
  threshold := none
  thresholdMetricId := some "band"
  metricName := none
  space := none
  period := none
  statistic := none
  extendedStatistic := none
  dimensions := .empty
  unit := none
  queries := []
  missingData := .missing
  lowSampleCount := none
  actionsEnabled := true
  alarmActions := []
  okActions := []
  insufficientDataActions := []
  tags := .empty

/-- The alarm for values of a metric above the band of expected values. -/
def expectedLatencyAlarm : MetricAlarm :=
  { aboveBandAlarm with
    queries := [
      { id := "latency"
        expression := none
        label := none
        returnData := true
        period := none
        accountId := none
        metric := some ⟨"Latency", "AWS/ApplicationELB", 30, "Average", none, .empty⟩ },
      { id := "band"
        expression := some "ANOMALY_DETECTION_BAND(latency, 2)"
        label := none
        returnData := false
        period := none
        accountId := none
        metric := none }] }

theorem wellFormed_expectedLatencyAlarm :
    Resource.validate expectedLatencyAlarm = .ok () ∧ expectedLatencyAlarm.WellFormed := by
  have h : Resource.validate expectedLatencyAlarm = .ok () :=
    Resource.validate_eq_ok_iff.mpr (by decide +kernel)
  exact ⟨h, wellFormed_of_validate h⟩

/-! ## Bands -/

/-- **The threshold of an accepted alarm is a query of it exactly if it has queries.**
The names of queries are different, so there is one query then. -/
theorem namesQuery_iff_of_validate (h : Resource.validate alarm = .ok ()) {id : String}
    (hid : alarm.thresholdMetricId = some id) :
    (alarm.queries.map (·.id)).count id = 1 ↔ alarm.queries ≠ [] := by
  have hnone := violations_eq_nil_of_validate h
  simp only [violations, List.append_eq_nil_iff] at hnone
  obtain ⟨⟨⟨⟨⟨-, hcheck⟩, -⟩, -⟩, -⟩, -⟩ := hnone
  constructor
  · intro hone hqueries
    simp [hqueries] at hone
  · intro hqueries
    have huses : alarm.usesQueries = true := usesQueries_eq_true_iff.mpr hqueries
    simp only [checkQueries, huses, if_true, List.append_eq_nil_iff, toList_flatMap_eq_nil_iff,
      Check.unique_eq_nil_iff, Check.that_eq_nil_iff, List.any_eq_true, decide_eq_true_eq]
      at hcheck
    obtain ⟨⟨⟨⟨-, hdistinct⟩, -⟩, -⟩, hnamed⟩ := hcheck
    obtain ⟨query, hquery, rfl⟩ := hnamed id hid
    exact List.count_eq_one_of_mem hdistinct (List.mem_map_of_mem hquery)

theorem namesQuery_expectedLatencyAlarm :
    Resource.validate expectedLatencyAlarm = .ok () ∧
      expectedLatencyAlarm.thresholdMetricId = some "band" ∧
      (expectedLatencyAlarm.queries.map (·.id)).count "band" = 1 := by
  have h : Resource.validate expectedLatencyAlarm = .ok () :=
    Resource.validate_eq_ok_iff.mpr (by decide +kernel)
  exact ⟨h, rfl, (namesQuery_iff_of_validate h rfl).mpr (List.cons_ne_nil _ _)⟩

/-- The alarm for values of a single metric above a band. -/
def bandlessAlarm : MetricAlarm :=
  { aboveBandAlarm with
    metricName := some "Latency"
    space := some "AWS/ApplicationELB"
    period := some 60
    statistic := some .average }

/-- A single metric may be compared with a band: its alarm has no queries among which the
id of the band would have to be. -/
theorem validate_bandlessAlarm :
    Resource.validate bandlessAlarm = .ok () ∧ bandlessAlarm.thresholdMetricId = some "band" ∧
      (bandlessAlarm.queries.map (·.id)).count "band" ≠ 1 :=
  ⟨Resource.validate_eq_ok_iff.mpr (by decide +kernel), rfl, by decide⟩

end MetricAlarm

end InfraSynth.Aws

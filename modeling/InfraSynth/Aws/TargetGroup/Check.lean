import InfraSynth.Aws.TargetGroup.Basic

/-!
# `aws_lb_target_group`: checks

What is wrong with the attributes of a target group, in the order in which it is
reported: the name, what the kind of the targets and the protocol demand, the
limits, the health check and the stickiness.
-/

namespace InfraSynth.Aws.TargetGroup

/-- Names: letters and digits, with hyphens inside. -/
def namePattern : Pattern :=
  .cat (.set .alphanumeric) (.optional (.cat
    (.many (.set (.union .alphanumeric (.single '-')))) (.set .alphanumeric)))

/-- A list of codes or ranges of codes. -/
def codeList (code : Pattern) : Pattern :=
  let codes := .cat code (.optional (.cat (.literal "-") code))
  .cat codes (.many (.cat (.literal ",") codes))

/-- Status codes of requests. -/
def httpMatcher : Pattern :=
  codeList (.times 3 (.set .digit))

/-- Status codes of remote procedure calls. -/
def grpcMatcher : Pattern :=
  codeList (.between 1 2 (.set .digit))

/-- The port on which GENEVE traffic is exchanged. -/
def genevePort : UInt32 := 6081

/-- The protocols that health checks may use. -/
def healthCheckProtocols : List String :=
  ["HTTP", "HTTPS", "TCP"]

/-- What is wrong with the name or the beginning of it. -/
def checkName (group : TargetGroup) : List Violation :=
  checkNameChoice "name" group.name "name_prefix" group.nameStart ++
  group.name.toList.flatMap (fun name =>
    Check.length "name" name 1 32 ++
    Check.format "name" name namePattern "alphanumeric with inner hyphens") ++
  group.nameStart.toList.flatMap fun start => Check.length "name_prefix" start 1 6

/-- An attribute that functions may not have and other targets must have. -/
def checkForLambda (group : TargetGroup) (field : String) (present : Bool) : List Violation :=
  if group.isLambda then Check.forbids field present true "for lambda targets"
  else Check.that present .required field "is required unless target_type is lambda"

/-- What the kind of the targets demands. -/
def checkTargetType (group : TargetGroup) : List Violation :=
  group.checkForLambda "port" group.port.isSome ++
  group.checkForLambda "protocol" group.protocol.isSome ++
  group.checkForLambda "vpc_id" group.vpcId.isSome ++
  group.port.toList.flatMap (fun port => Check.range "port" port.toNat 1 65535) ++
  group.vpcId.toList.flatMap (fun id => checkResourceId "vpc_id" id "vpc") ++
  Check.that (group.targetType ≠ .alb || group.protocol = some .tcp) .conditional "protocol"
    "must be TCP for alb targets"

/-- What the protocol demands if it is GENEVE. -/
def checkGeneve (group : TargetGroup) : List Violation :=
  if group.protocol = some .geneve then
    group.port.toList.flatMap (fun port =>
      Check.that (port = genevePort) .conditional "port"
        s!"must be {genevePort} for GENEVE") ++
    Check.that (group.targetType = .instances || group.targetType = .ip) .conditional
      "target_type" "must be instance or ip for GENEVE"
  else []

/-- What makes sense for application protocols only. -/
def checkApplication (group : TargetGroup) : List Violation :=
  group.protocolVersion.toList.flatMap (fun version =>
    Check.forbids "protocol_version" true (!group.isHttp)
      s!"({Enumeration.name version}) without HTTP or HTTPS") ++
  Check.range "deregistration_delay" group.deregistrationDelay.toNat 0 3600 ++
  (if group.slowStart = 0 then []
    else
      Check.range "slow_start" group.slowStart.toNat 30 900 ++
      Check.forbids "slow_start" true (!group.isHttp) "without HTTP or HTTPS") ++
  group.algorithm.toList.flatMap fun algorithm =>
    Check.oneOf "load_balancing_algorithm_type" algorithm
      ["round_robin", "least_outstanding_requests", "weighted_random"] ++
    Check.forbids "load_balancing_algorithm_type" true (!group.isHttp) "without HTTP or HTTPS"

/-- What is wrong with the port of a health check. -/
def checkHealthPort (port : String) : List Violation :=
  if port = "traffic-port" then []
  else match Text.natural? (UInt32.size - 1) port with
    | some number => Check.range "health_check.port" number 1 65535
    | none => [⟨.format, "health_check.port", "must be 'traffic-port' or a port number"⟩]

/-- Whether health checks are requests that have a path. -/
def checksRequests (group : TargetGroup) (check : HealthCheck) : Bool :=
  (check.protocol.or group.protocol).any Protocol.isHttp || group.isLambda

/-- What is wrong with the path of a health check. -/
def checkHealthPath (group : TargetGroup) (check : HealthCheck) (path : String) :
    List Violation :=
  Check.forbids "health_check.path" true (!group.checksRequests check)
    "for non-HTTP health checks" ++
  Check.that (Text.startsWith path "/") .format "health_check.path" "must start with '/'" ++
  Check.length "health_check.path" path 1 1024

/-- What is wrong with the status codes of a health check. -/
def checkHealthMatcher (group : TargetGroup) (check : HealthCheck) (matcher : String) :
    List Violation :=
  let grpc := group.protocolVersion = some .grpc
  Check.forbids "health_check.matcher" true (!group.checksRequests check && !grpc)
    "for non-HTTP health checks" ++
  Check.format "health_check.matcher" matcher (if grpc then grpcMatcher else httpMatcher)
    "a status code list such as 200,202 or 200-299"

/-- What is wrong with the health check. -/
def checkHealth (group : TargetGroup) (check : HealthCheck) : List Violation :=
  Check.range "health_check.interval" check.interval.toNat 5 300 ++
  Check.range "health_check.healthy_threshold" check.healthyThreshold.toNat 2 10 ++
  Check.range "health_check.unhealthy_threshold" check.unhealthyThreshold.toNat 2 10 ++
  check.timeout.toList.flatMap (fun timeout =>
    Check.range "health_check.timeout" timeout.toNat 2 120 ++
    Check.that (timeout < check.interval) .conditional "health_check.timeout"
      s!"must be less than interval ({check.interval}s)") ++
  checkHealthPort check.port ++
  check.protocol.toList.flatMap (fun protocol =>
    Check.oneOf "health_check.protocol" (Enumeration.name protocol) healthCheckProtocols) ++
  check.path.toList.flatMap (group.checkHealthPath check) ++
  check.matcher.toList.flatMap (group.checkHealthMatcher check)

/-- What is wrong with the stickiness. -/
def checkStickiness (group : TargetGroup) (stickiness : Stickiness) : List Violation :=
  let appCookie := stickiness.type = .appCookie
  Check.range "stickiness.cookie_duration" stickiness.cookieDuration.toNat 1 604800 ++
  Check.requires "stickiness.type" appCookie "stickiness.cookie_name"
    stickiness.cookieName.isSome ++
  Check.forbids "stickiness.cookie_name" stickiness.cookieName.isSome (!appCookie)
    "unless type is app_cookie" ++
  match stickiness.type with
  | .sourceIp =>
    Check.forbids "stickiness.type" true (!group.isNetwork)
      "as source_ip without a TCP, TLS, UDP or TCP_UDP protocol"
  | .lbCookie | .appCookie =>
    Check.forbids "stickiness.type" true (!group.isHttp && !group.isLambda)
      "as a cookie type without HTTP or HTTPS"

/-- What is wrong with the attributes. -/
def violations (group : TargetGroup) : List Violation :=
  group.checkName ++
  group.checkTargetType ++
  group.checkGeneve ++
  group.checkApplication ++
  group.healthCheck.toList.flatMap group.checkHealth ++
  group.stickiness.toList.flatMap group.checkStickiness ++
  checkTags "tags" group.tags

/-- What follows from the attributes of a target group. -/
structure Computed where
  isNetwork : Bool
  supportsHealthCheckPath : Bool
  requiresVpc : Bool
  usesStickiness : Bool
  /-- How many seconds a target that fails still receives traffic. -/
  failureDetectionSeconds : UInt32
  deriving DecidableEq

/-- What follows from the attributes. -/
def computed (group : TargetGroup) : Computed :=
  let check := group.healthCheck.getD .default
  { isNetwork := group.isNetwork
    supportsHealthCheckPath := group.isHttp || group.isLambda
    requiresVpc := !group.isLambda
    usesStickiness := group.stickiness.any (·.enabled)
    failureDetectionSeconds := check.interval * check.unhealthyThreshold }

/-- What follows from the attributes, as JSON. -/
def Computed.toJson (computed : Computed) : Json :=
  .object [
    ("is_network_target_group", computed.isNetwork),
    ("supports_health_check_path", computed.supportsHealthCheckPath),
    ("requires_vpc", computed.requiresVpc),
    ("uses_stickiness", computed.usesStickiness),
    ("failure_detection_seconds", .nat computed.failureDetectionSeconds.toNat)]

end TargetGroup

instance : Resource TargetGroup where
  typeName := "aws_lb_target_group"
  outputs := ["id", "arn", "arn_suffix", "name"]
  record := TargetGroup.record
  check group := ⟨group.violations, []⟩
  computed group := group.computed.toJson

end InfraSynth.Aws

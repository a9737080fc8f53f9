import InfraSynth.Aws.Arn
import InfraSynth.Aws.Tags
import InfraSynth.Resource

/-!
# `aws_lb_target_group`: attributes

A target group receives traffic from a load balancer.  Which attributes make
sense depends on the kind of the targets and on the protocol: application
protocols are inspected, network protocols are passed on, and functions have
neither port nor protocol.
-/

namespace InfraSynth.Aws

/-- What a target is. -/
inductive TargetType
  | instances
  | ip
  | lambda
  | alb
  deriving DecidableEq, Repr

instance : Enumeration TargetType where
  all := [.instances, .ip, .lambda, .alb]
  name
    | .instances => "instance"
    | .ip => "ip"
    | .lambda => "lambda"
    | .alb => "alb"

/-- The protocol between load balancer and targets. -/
inductive Protocol
  | http
  | https
  | tcp
  | tls
  | udp
  | tcpUdp
  | geneve
  deriving DecidableEq, Repr

instance : Enumeration Protocol where
  all := [.http, .https, .tcp, .tls, .udp, .tcpUdp, .geneve]
  name
    | .http => "HTTP"
    | .https => "HTTPS"
    | .tcp => "TCP"
    | .tls => "TLS"
    | .udp => "UDP"
    | .tcpUdp => "TCP_UDP"
    | .geneve => "GENEVE"

/-- Whether the load balancer inspects requests. -/
def Protocol.isHttp : Protocol → Bool
  | http | https => true
  | _ => false

/-- Whether the load balancer passes on connections. -/
def Protocol.isNetwork : Protocol → Bool
  | tcp | tls | udp | tcpUdp => true
  | _ => false

/-- The version of an application protocol. -/
inductive ProtocolVersion
  | http1
  | http2
  | grpc
  deriving DecidableEq, Repr

instance : Enumeration ProtocolVersion where
  all := [.http1, .http2, .grpc]
  name
    | .http1 => "HTTP1"
    | .http2 => "HTTP2"
    | .grpc => "GRPC"

/-- By what requests are kept at the same target. -/
inductive StickinessType
  | lbCookie
  | appCookie
  | sourceIp
  deriving DecidableEq, Repr

instance : Enumeration StickinessType where
  all := [.lbCookie, .appCookie, .sourceIp]
  name
    | .lbCookie => "lb_cookie"
    | .appCookie => "app_cookie"
    | .sourceIp => "source_ip"

/-- How the health of targets is checked. -/
structure HealthCheck where
  enabled : Bool := true
  healthyThreshold : UInt32 := 3
  unhealthyThreshold : UInt32 := 3
  interval : UInt32 := 30
  timeout : Option UInt32 := none
  path : Option String := none
  port : String := "traffic-port"
  protocol : Option Protocol := none
  matcher : Option String := none
  deriving DecidableEq

namespace HealthCheck

/-- The health check of groups that are given none. -/
def default : HealthCheck := {}

/-- How a health check is written. -/
def record : JsonRecord HealthCheck where
  name := "HealthCheck"
  types := _
  fields :=
    .cons (.defaulted "enabled" .flag default.enabled) <|
    .cons (.defaulted "healthy_threshold" .uint32 default.healthyThreshold) <|
    .cons (.defaulted "unhealthy_threshold" .uint32 default.unhealthyThreshold) <|
    .cons (.defaulted "interval" .uint32 default.interval) <|
    .cons (.optionalLast "timeout" .uint32) <|
    .cons (.optionalLast "path" .text) <|
    .cons (.defaulted "port" .text default.port) <|
    .cons (.optionalLast "protocol" .named) <|
    .cons (.optionalLast "matcher" .text) .nil
  build := fun (enabled, healthyThreshold, unhealthyThreshold, interval, timeout, path, port,
      protocol, matcher, ()) =>
    { enabled, healthyThreshold, unhealthyThreshold, interval, timeout, path, port, protocol,
      matcher }
  row check := (check.enabled, check.healthyThreshold, check.unhealthyThreshold, check.interval,
    check.timeout, check.path, check.port, check.protocol, check.matcher, ())

end HealthCheck

/-- How requests are kept at the same target. -/
structure Stickiness where
  type : StickinessType
  enabled : Bool
  cookieDuration : UInt32
  cookieName : Option String
  deriving DecidableEq

/-- How stickiness is written. -/
def Stickiness.record : JsonRecord Stickiness where
  name := "Stickiness"
  types := _
  fields :=
    .cons (.required "type" .named) <|
    .cons (.defaulted "enabled" .flag true) <|
    .cons (.defaulted "cookie_duration" .uint32 86400) <|
    .cons (.optional "cookie_name" .text) .nil
  build := fun (type, enabled, cookieDuration, cookieName, ()) =>
    { type, enabled, cookieDuration, cookieName }
  row stickiness := (stickiness.type, stickiness.enabled, stickiness.cookieDuration,
    stickiness.cookieName, ())

/-- The attributes of a target group. -/
structure TargetGroup where
  name : Option String
  nameStart : Option String
  port : Option UInt32
  protocol : Option Protocol
  protocolVersion : Option ProtocolVersion
  vpcId : Option String
  targetType : TargetType
  deregistrationDelay : UInt32
  slowStart : UInt32
  algorithm : Option String
  healthCheck : Option HealthCheck
  stickiness : Option Stickiness
  tags : TextMap
  deriving DecidableEq

namespace TargetGroup

/-- The group of instances for a protocol on a port of a network, with every
other attribute at its default. -/
def ofProtocol (port : UInt32) (protocol : Protocol) (vpcId : String) : TargetGroup where
  name := none
  nameStart := none
  port := some port
  protocol := some protocol
  protocolVersion := none
  vpcId := some vpcId
  targetType := .instances
  deregistrationDelay := 300
  slowStart := 0
  algorithm := none
  healthCheck := none
  stickiness := none
  tags := .empty

/-- How the attributes are written. -/
def record : JsonRecord TargetGroup where
  name := "LbTargetGroupAttributes"
  types := _
  fields :=
    .cons (.optional "name" .text) <|
    .cons (.optional "name_prefix" .text) <|
    .cons (.optional "port" .uint32) <|
    .cons (.optional "protocol" .named) <|
    .cons (.optional "protocol_version" .named) <|
    .cons (.optional "vpc_id" .text) <|
    .cons (.defaulted "target_type" .named .instances) <|
    .cons (.defaulted "deregistration_delay" .uint32 300) <|
    .cons (.defaulted "slow_start" .uint32 0) <|
    .cons (.optional "load_balancing_algorithm_type" .text) <|
    .cons (.optional "health_check" HealthCheck.record.codec) <|
    .cons (.optional "stickiness" Stickiness.record.codec) <|
    .cons (.textMap "tags") .nil
  build := fun (name, nameStart, port, protocol, protocolVersion, vpcId, targetType,
      deregistrationDelay, slowStart, algorithm, healthCheck, stickiness, tags, ()) =>
    { name, nameStart, port, protocol, protocolVersion, vpcId, targetType,
      deregistrationDelay, slowStart, algorithm, healthCheck, stickiness, tags }
  row group := (group.name, group.nameStart, group.port, group.protocol, group.protocolVersion,
    group.vpcId, group.targetType, group.deregistrationDelay, group.slowStart, group.algorithm,
    group.healthCheck, group.stickiness, group.tags, ())

/-- Whether the group has an application protocol. -/
def isHttp (group : TargetGroup) : Bool :=
  group.protocol.any Protocol.isHttp

/-- Whether the group has a network protocol. -/
def isNetwork (group : TargetGroup) : Bool :=
  group.protocol.any Protocol.isNetwork

/-- Whether the targets are functions. -/
def isLambda (group : TargetGroup) : Bool :=
  group.targetType = .lambda

end TargetGroup

end InfraSynth.Aws

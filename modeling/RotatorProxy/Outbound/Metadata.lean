import RotatorProxy.Outbound.Socks5

/-! A destination as the adapters get it, and the header in which the Trojan adapter passes it on. -/
namespace RotatorProxy.Outbound
open Text Proxy Library

/-- What the adapters read of a `Metadata`. -/
structure Metadata where
  host : Str
  dstIp : Option IpAddr
  dstPort : UInt16
  deriving DecidableEq

/-- `lowerHost` is `Metadata::lower_host`. -/
def metadataFromTarget (lowerHost : Str → Str) (target : TargetAddr) : Metadata :=
  match parseIpAddr target.host with
  | some ip => ⟨[],some ip,target.port⟩
  | none => ⟨lowerHost target.host,none,target.port⟩

def encodeSocksAddrFromMetadata (metadata : Metadata) : Except MeowError Bytes :=
  if metadata.host ≠ [] then
    let host := utf8 metadata.host
    if 255 < host.length then
      .error (.proxy ("trojan: domain name too long (".toList++decimal host.length++" > 255)".toList))
    else .ok ([3,UInt8.ofNat host.length]++host++toBeBytes metadata.dstPort)
  else match metadata.dstIp with
    | some (.v4 ip) => .ok ([1]++ip.octets++toBeBytes metadata.dstPort)
    | some (.v6 ip) => .ok ([4]++ip.octets++toBeBytes metadata.dstPort)
    | none => .ok ([1]++[0,0,0,0]++toBeBytes metadata.dstPort)

/-- `build_header` -/
def buildHeader (hexPassword : Str) (metadata : Metadata) : Except MeowError Bytes :=
  (encodeSocksAddrFromMetadata metadata).map fun address =>
    utf8 hexPassword++[13,10]++[1]++address++[13,10]

end RotatorProxy.Outbound

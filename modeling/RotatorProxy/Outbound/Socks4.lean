import RotatorProxy.Outbound.Tunnel
import RotatorProxy.Text.Octets

/-! The SOCKS4 handshake with an upstream proxy: an address that is looked up here, or the host itself
for the proxy to look up (SOCKS4a). -/
namespace RotatorProxy.Outbound
open Text Proxy

/-- `lookup_host`: the addresses that DNS gives. -/
abbrev LookupHost := Str → UInt16 → Except IoError (List IpAddr)

def firstIpv4 (addrs : List IpAddr) : Option Ipv4Addr :=
  addrs.findSome? fun addr => match addr with
    | .v4 ip => some ip
    | .v6 _ => none

def resolveIpv4 (lookupHost : LookupHost) (target : TargetAddr) : Except IoError Ipv4Addr :=
  match parseIpAddr target.host with
  | some (.v4 ip) => .ok ip
  | some (.v6 _) => .error (.new .invalidInput "SOCKS4 不支持 IPv6 目标".toList)
  | none =>
    (lookupHost target.host target.port).bind fun addrs =>
      match firstIpv4 addrs with
      | some ip => .ok ip
      | none => .error (.new .notFound "DNS 查询未返回 IPv4 地址".toList)

def socks4Ip (lookupHost : LookupHost) (remoteDns : Bool) (target : TargetAddr) :
    Except IoError Ipv4Addr :=
  if remoteDns then .ok ⟨0,0,0,1⟩ else resolveIpv4 lookupHost target

def socks4User (auth : Option Credentials) : Str := (auth.map (·.username)).getD []

/-- The request of `connect_socks4_proxy`. -/
def socks4Request (auth : Option Credentials) (remoteDns : Bool) (ip : Ipv4Addr) (target : TargetAddr) :
    Bytes :=
  [4,1]++toBeBytes target.port++ip.octets++utf8 (socks4User auth)++[0]++
    if remoteDns then utf8 target.host++[0] else []

/-- The reply: eight bytes, of which the second says whether the request is granted. -/
def readSocks4Response (libc : Libc) (incoming : Incoming) : Except IoError Incoming :=
  (readExact libc 8 incoming).bind fun (response,incoming) =>
    if response.getD 1 0 ≠ 90 then
      .error (.otherError ("SOCKS4 连接失败，响应码 ".toList++decimal (response.getD 1 0).toNat))
    else .ok incoming

/-- `connect_socks4_proxy` behind the connection: what is sent, and what is left of the stream. -/
def connectSocks4Proxy (libc : Libc) (lookupHost : LookupHost) (auth : Option Credentials)
    (remoteDns : Bool) (target : TargetAddr) (incoming : Incoming) : Except IoError (Bytes × Incoming) :=
  (socks4Ip lookupHost remoteDns target).bind fun ip =>
    (readSocks4Response libc incoming).map fun incoming =>
      (socks4Request auth remoteDns ip target,incoming)

end RotatorProxy.Outbound

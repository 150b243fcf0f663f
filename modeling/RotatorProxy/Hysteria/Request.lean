import Mathlib.Data.List.GetD
import RotatorProxy.Outbound.Metadata
import RotatorProxy.Text.Pieces

/-! The request of a hysteria client: the destination goes through a printed `host:port` on its way into
the bytes. -/
namespace RotatorProxy.Hysteria
open Text Proxy Outbound Library

/-- `Display` of a `SocketAddr` -/
def socketAddrDisplay (ip : IpAddr) (port : UInt16) : Str :=
  match ip with
  | .v4 ip => ip.display++ ':'::decimal port.toNat
  | .v6 ip => '['::(ip.display++[']'])++ ':'::decimal port.toNat

def targetFromMetadata (metadata : Metadata) : Except MeowError Str :=
  if metadata.dstPort=0 then .error (.proxy "hysteria: metadata has no destination port".toList)
  else if metadata.host ≠ [] then
    match parseIpAddr metadata.host with
    | some ip => .ok (socketAddrDisplay ip metadata.dstPort)
    | none => .ok (metadata.host++ ':'::decimal metadata.dstPort.toNat)
  else match metadata.dstIp with
    | some ip => .ok (socketAddrDisplay ip metadata.dstPort)
    | none => .error (.proxy "hysteria: metadata has no destination".toList)

def splitHostPort (target : Str) : Except MeowError (Str × UInt16) :=
  match rsplitOnce ':' target with
  | none => .error (.proxy ("hysteria target lacks port: ".toList++target))
  | some (host,port) =>
    match parseU16 port with
    | none => .error (.proxy ("hysteria target port is invalid: ".toList++parseU16Error port))
    | some number => .ok (trimEndMatches ']' (trimStartMatches '[' host),number)

def encodeClientRequest (target : Str) : Except MeowError Bytes :=
  (splitHostPort target).bind fun (host,port) =>
    if 65535 < (utf8 host).length then .error (.proxy "hysteria request host is too long".toList)
    else .ok ([0]++toBeBytes (UInt16.ofNat (utf8 host).length)++utf8 host++toBeBytes port)

/-- What a server finds in a request: a host with its length, and a port, and nothing else. -/
def decodeClientRequest : Bytes → Option (Str × UInt16)
  | 0::hi::lo::bytes =>
    let len := (fromBeBytes hi lo).toNat
    if bytes.length=len+2 then
      (fromUtf8 (bytes.take len)).map fun host =>
        (host,fromBeBytes (bytes.getD len 0) (bytes.getD (len+1) 0))
    else none
  | _ => none

/-- A request is read back from its bytes. -/
theorem decodeClientRequest_encode {target host : Str} {port : UInt16}
    (hsplit : splitHostPort target = .ok (host,port)) (hlen : (utf8 host).length ≤ 65535) :
    ∃ request, encodeClientRequest target = .ok request ∧ decodeClientRequest request = some (host,port) := by
  have hsize : (UInt16.ofNat (utf8 host).length).toNat=(utf8 host).length := by
    rw [UInt16.toNat_ofNat',Nat.mod_eq_of_lt (by omega)]
  have hport : fromBeBytes ((utf8 host++toBeBytes port).getD (utf8 host).length 0)
      ((utf8 host++toBeBytes port).getD ((utf8 host).length+1) 0) = port := by
    rw [List.getD_append_right _ _ _ _ (Nat.le_refl _),List.getD_append_right _ _ _ _ (Nat.le_add_right _ 1),
      Nat.sub_self,Nat.add_sub_cancel_left]
    exact fromBeBytes_toBeBytes port
  refine ⟨[0]++toBeBytes (UInt16.ofNat (utf8 host).length)++utf8 host++toBeBytes port,?_,?_⟩
  · rw [encodeClientRequest,hsplit]
    exact if_neg (by omega)
  · have hform : [0]++toBeBytes (UInt16.ofNat (utf8 host).length)++utf8 host++toBeBytes port =
        0::UInt8.ofNat ((UInt16.ofNat (utf8 host).length).toNat/256)::
          UInt8.ofNat ((UInt16.ofNat (utf8 host).length).toNat%256)::(utf8 host++toBeBytes port) := rfl
    rw [hform,decodeClientRequest,fromBeBytes_toBeBytes,hsize,if_pos (by simp [toBeBytes]),List.take_left,
      fromUtf8_utf8,Option.map_some,hport]

/-- Behind the last colon stands the port, and brackets around the host come off. -/
theorem splitHostPort_append {host plain : Str} (port : UInt16)
    (hplain : trimEndMatches ']' (trimStartMatches '[' host)=plain) :
    splitHostPort (host++ ':'::decimal port.toNat) = .ok (plain,port) := by
  rw [splitHostPort,rsplitOnce_append (notMem_decimal (by decide) port.toNat)]
  dsimp only
  rw [parseU16_decimal,← hplain]

end RotatorProxy.Hysteria

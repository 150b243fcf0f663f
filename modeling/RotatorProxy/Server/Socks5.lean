import Mathlib.Data.List.GetD
import RotatorProxy.Outbound.Tunnel
import RotatorProxy.Server.Http
import RotatorProxy.Text.Octets

/-! The SOCKS5 side of the inbound server: the method choice, the request with its three kinds of
addresses, and the replies. -/
namespace RotatorProxy.Server
open Text Proxy Outbound

structure Socks5Request where
  command : UInt8
  target : TargetAddr
  deriving DecidableEq

/-- An IPv4 address as the request's bytes spell it. -/
def dotted (octets : Bytes) : Str :=
  List.intercalate ['.'] (octets.map fun b => decimal b.toNat)

section
variable (libc : Libc)

/-- The address of a request, by its type. -/
def readSocks5Target (atyp : UInt8) (client : Incoming) : Except IoError (TargetAddr × Incoming) :=
  if atyp=1 then
    (readExact libc 6 client).bind fun (rest,client) =>
      (targetAddr (TargetAddr.new (dotted (rest.take 4)) (fromBeBytes (rest.getD 4 0) (rest.getD 5 0)))).map
        fun target => (target,client)
  else if atyp=3 then
    (readExact libc 1 client).bind fun (len,client) =>
      (readExact libc (len.getD 0 0).toNat client).bind fun (domain,client) =>
        (readExact libc 2 client).bind fun (port,client) =>
          match fromUtf8 domain with
          | none => .error (invalidData "SOCKS5 域名不是 UTF-8".toList)
          | some host =>
            (targetAddr (TargetAddr.new host (fromBeBytes (port.getD 0 0) (port.getD 1 0)))).map
              fun target => (target,client)
  else if atyp=4 then
    (readExact libc 18 client).bind fun (rest,client) =>
      let ip := Ipv6Addr.ofOctets fun i => rest.getD i 0
      (targetAddr (TargetAddr.new ip.display (fromBeBytes (rest.getD 16 0) (rest.getD 17 0)))).map
        fun target => (target,client)
  else .error (invalidData ("不支持的 SOCKS5 地址类型 0x".toList++hexadecimal atyp.toNat))

def readSocks5Request (client : Incoming) : Except IoError (Socks5Request × Incoming) :=
  (readExact libc 4 client).bind fun (head,client) =>
    if head.getD 0 0 ≠ 5 then .error (invalidData "SOCKS5 请求版本无效".toList)
    else (readSocks5Target libc (head.getD 3 0) client).map fun (target,client) =>
      (⟨head.getD 1 0,target⟩,client)

/-- `write_socks5_reply` -/
def socks5Reply (reply : UInt8) : Bytes := [5,reply,0,1,0,0,0,0,0,0]

inductive Socks5Outcome
  /-- What the client is told before its connection is closed. -/
  | closed (toClient : Bytes) (err : IoError)
  /-- What the client is told, and what of its bytes the target is sent. -/
  | relayed (target : TargetAddr) (toClient toRemote : Bytes)
  deriving DecidableEq

/-- `handle_socks5` behind the method choice; `connect` is the connector's answer. -/
def handleSocks5Request (connect : TargetAddr → Except IoError Unit) (client : Incoming) : Socks5Outcome :=
  match readSocks5Request libc client with
  | .error err => .closed ([5,0]++socks5Reply 1) err
  | .ok (request,client) =>
    if request.command ≠ 1 then
      .closed ([5,0]++socks5Reply 7) (.new .unsupported "SOCKS5 命令不是 CONNECT".toList)
    else match connect request.target with
      | .error err => .closed ([5,0]++socks5Reply 5) err
      | .ok () => .relayed request.target ([5,0]++socks5Reply 0) client.bytes

def handleSocks5 (connect : TargetAddr → Except IoError Unit) (client : Incoming) : Socks5Outcome :=
  match readExact libc 2 client with
  | .error err => .closed [] err
  | .ok (head,client) =>
    if head.getD 0 0 ≠ 5 then .closed [] (invalidData "SOCKS5 版本无效".toList)
    else match readExact libc (head.getD 1 0).toNat client with
      | .error err => .closed [] err
      | .ok (methods,client) =>
        if 0 ∉ methods then .closed [5,255] (.otherError "SOCKS5 客户端未提供免认证方法".toList)
        else handleSocks5Request libc connect client

end

/-! A request is read back from its bytes -/

lemma dotted_octets (ip : Ipv4Addr) : dotted ip.octets=ip.display := by
  simp [dotted,Ipv4Addr.octets,Ipv4Addr.display,List.intercalate]

section
variable {libc : Libc} {port : UInt16} {target : TargetAddr} (body : Bytes) (ending : Ending)

lemma targetAddr_new {host : Str} (hnew : TargetAddr.new host port = .ok target) :
    targetAddr (TargetAddr.new host port) = .ok target := by
  rw [hnew]
  rfl

lemma readSocks5Request_head (atyp : UInt8) (rest : Bytes) :
    readSocks5Request libc ⟨[5,1,0,atyp]++rest,ending⟩ =
      (readSocks5Target libc atyp ⟨rest,ending⟩).map fun read => (⟨1,read.1⟩,read.2) := by
  rw [readSocks5Request,readExact_append (n := 4) (a := [5,1,0,atyp]) rfl]
  rfl

theorem readSocks5Request_v4 {ip : Ipv4Addr} (hnew : TargetAddr.new ip.display port = .ok target) :
    readSocks5Request libc ⟨[5,1,0]++([1]++ip.octets++toBeBytes port)++body,ending⟩ =
      .ok (⟨1,target⟩,⟨body,ending⟩) := by
  have hport : fromBeBytes (UInt8.ofNat (port.toNat/256)) (UInt8.ofNat (port.toNat%256)) = port :=
    fromBeBytes_toBeBytes port
  have hform : [5,1,0]++([1]++ip.octets++toBeBytes port)++body=[5,1,0,1]++((ip.octets++toBeBytes port)++body) := by
    simp
  have hrest : TargetAddr.new (dotted ((ip.octets++toBeBytes port).take 4))
      (fromBeBytes ((ip.octets++toBeBytes port).getD 4 0) ((ip.octets++toBeBytes port).getD 5 0)) =
        TargetAddr.new ip.display port := congrArg₂ TargetAddr.new (dotted_octets ip) hport
  rw [hform,readSocks5Request_head,readSocks5Target,if_pos rfl,
    readExact_append (n := 6) (a := ip.octets++toBeBytes port) rfl]
  simp only [Except.bind,hrest,targetAddr_new hnew]
  rfl

theorem readSocks5Request_v6 {ip : Ipv6Addr} (hnew : TargetAddr.new ip.display port = .ok target) :
    readSocks5Request libc ⟨[5,1,0]++([4]++ip.octets++toBeBytes port)++body,ending⟩ =
      .ok (⟨1,target⟩,⟨body,ending⟩) := by
  have hform : [5,1,0]++([4]++ip.octets++toBeBytes port)++body=[5,1,0,4]++((ip.octets++toBeBytes port)++body) := by
    simp
  have hlen : (ip.octets++toBeBytes port).length=18 := by
    rw [List.length_append,ip.octets_length]
    rfl
  have hbytes : fromBeBytes ((ip.octets++toBeBytes port).getD 16 0)
      ((ip.octets++toBeBytes port).getD 17 0) = port := by
    rw [List.getD_append_right _ _ _ _ (by simp),List.getD_append_right _ _ _ _ (by simp),
      ip.octets_length]
    exact fromBeBytes_toBeBytes port
  have hrest : TargetAddr.new (Ipv6Addr.ofOctets fun i => (ip.octets++toBeBytes port).getD i 0).display
      (fromBeBytes ((ip.octets++toBeBytes port).getD 16 0) ((ip.octets++toBeBytes port).getD 17 0)) =
        TargetAddr.new ip.display port :=
    congrArg₂ TargetAddr.new (congrArg Ipv6Addr.display (ip.ofOctets_octets _)) hbytes
  rw [hform,readSocks5Request_head,readSocks5Target,if_neg (by decide),if_neg (by decide),if_pos rfl,
    readExact_append hlen]
  simp only [Except.bind,hrest,targetAddr_new hnew]
  rfl

theorem readSocks5Request_domain {name : Str} (hlen : (utf8 name).length ≤ 255)
    (hnew : TargetAddr.new name port = .ok target) :
    readSocks5Request libc
      ⟨[5,1,0]++([3,UInt8.ofNat (utf8 name).length]++utf8 name++toBeBytes port)++body,ending⟩ =
      .ok (⟨1,target⟩,⟨body,ending⟩) := by
  have hport : fromBeBytes (UInt8.ofNat (port.toNat/256)) (UInt8.ofNat (port.toNat%256)) = port :=
    fromBeBytes_toBeBytes port
  have hbyte : (UInt8.ofNat (utf8 name).length).toNat=(utf8 name).length := by
    rw [UInt8.toNat_ofNat',Nat.mod_eq_of_lt (by omega)]
  have hform : [5,1,0]++([3,UInt8.ofNat (utf8 name).length]++utf8 name++toBeBytes port)++body=
      [5,1,0,3]++([UInt8.ofNat (utf8 name).length]++(utf8 name++(toBeBytes port++body))) := by
    simp
  have hrest : TargetAddr.new name (fromBeBytes ((toBeBytes port).getD 0 0) ((toBeBytes port).getD 1 0)) =
      TargetAddr.new name port := congrArg₂ TargetAddr.new rfl hport
  rw [hform,readSocks5Request_head,readSocks5Target,if_neg (by decide),if_pos rfl,readExact_append (n := 1) rfl]
  simp only [Except.bind,List.getD_cons_zero]
  rw [readExact_append hbyte.symm]
  dsimp only
  rw [readExact_append (n := 2) (a := toBeBytes port) rfl]
  dsimp only
  rw [fromUtf8_utf8]
  simp only [hrest,targetAddr_new hnew]
  rfl

end
end RotatorProxy.Server

import RotatorProxy.Library.Dialogue
import RotatorProxy.Outbound.Socks4

/-! The SOCKS5 handshake with an upstream proxy: the choice of a method, the password where it is asked
for, and the request with its three kinds of addresses. -/
namespace RotatorProxy.Outbound
open Text Proxy Library

/-- A handshake reads bytes and sends bytes. -/
abbrev HandshakeDialogue := Dialogue UInt8 IoError Unit

def encodeSocks5Ip (ip : IpAddr) (port : UInt16) : Bytes :=
  match ip with
  | .v4 ip => [1]++ip.octets++toBeBytes port
  | .v6 ip => [4]++ip.octets++toBeBytes port

def encodeSocks5DomainOrIp (target : TargetAddr) : Except IoError Bytes :=
  match parseIpAddr target.host with
  | some ip => .ok (encodeSocks5Ip ip target.port)
  | none =>
    let host := utf8 target.host
    if 255 < host.length then .error (.new .invalidInput "SOCKS5 域名过长".toList)
    else .ok ([3,UInt8.ofNat host.length]++host++toBeBytes target.port)

def encodeSocks5Resolved (lookupHost : LookupHost) (target : TargetAddr) : Except IoError Bytes :=
  match parseIpAddr target.host with
  | some ip => .ok (encodeSocks5Ip ip target.port)
  | none =>
    (lookupHost target.host target.port).bind fun addrs =>
      match addrs.head? with
      | some addr => .ok (encodeSocks5Ip addr target.port)
      | none => .error (.new .notFound "DNS 查询未返回地址".toList)

/-- The address of the request in `connect_socks5_proxy`. -/
def socks5TargetAddr (lookupHost : LookupHost) (remoteDns : Bool) (target : TargetAddr) :
    Except IoError Bytes :=
  if remoteDns then encodeSocks5DomainOrIp target else encodeSocks5Resolved lookupHost target

/-- The request of `send_socks5_password_auth`. -/
def socks5PasswordRequest (auth : Credentials) : Except IoError Bytes :=
  let username := utf8 auth.username
  let password := utf8 (auth.password.getD [])
  if 255 < username.length ∨ 255 < password.length then
    .error (.new .invalidInput "SOCKS5 用户名或密码过长".toList)
  else .ok ([1,UInt8.ofNat username.length]++username++[UInt8.ofNat password.length]++password)

def sendSocks5PasswordAuth (auth : Credentials) (next : HandshakeDialogue) : HandshakeDialogue :=
  match socks5PasswordRequest auth with
  | .error err => .done (.error err)
  | .ok request =>
    .send request <| .readExact 2 fun response =>
      if response ≠ [1,0] then .done (.error (.otherError "SOCKS5 用户名/密码认证失败".toList)) else next

/-- The methods that are offered. -/
def socks5Offer (auth : Option Credentials) : Bytes := if auth.isSome then [5,2,0,2] else [5,1,0]

def socks5Authenticate (auth : Option Credentials) (next : HandshakeDialogue) : HandshakeDialogue :=
  .send (socks5Offer auth) <| .readExact 2 fun response =>
    if response.getD 0 0 ≠ 5 then .done (.error (.new .invalidData "SOCKS5 认证响应版本无效".toList))
    else if response.getD 1 0=0 then next
    else if response.getD 1 0=2 then
      match auth with
      | none => .done (.error (.otherError "SOCKS5 代理要求认证".toList))
      | some auth => sendSocks5PasswordAuth auth next
    else if response.getD 1 0=255 then .done (.error (.otherError "SOCKS5 代理拒绝认证方法".toList))
    else .done (.error (.otherError
      ("不支持的 SOCKS5 认证方法 0x".toList++hexadecimal (response.getD 1 0).toNat)))

def readSocks5ConnectResponse (next : HandshakeDialogue) : HandshakeDialogue :=
  .readExact 4 fun head =>
    if head.getD 0 0 ≠ 5 then .done (.error (.new .invalidData "SOCKS5 连接响应版本无效".toList))
    else if head.getD 1 0 ≠ 0 then
      .done (.error (.otherError ("SOCKS5 连接失败，响应码 0x".toList++hexadecimal (head.getD 1 0).toNat)))
    else if head.getD 3 0=1 then .readExact 6 fun _ => next
    else if head.getD 3 0=3 then
      .readExact 1 fun len => .readExact ((len.getD 0 0).toNat+2) fun _ => next
    else if head.getD 3 0=4 then .readExact 18 fun _ => next
    else .done (.error (.new .invalidData
      ("不支持的 SOCKS5 响应地址类型 0x".toList++hexadecimal (head.getD 3 0).toNat)))

/-- `connect_socks5_proxy` behind the method choice. -/
def requestSocks5Target (lookupHost : LookupHost) (remoteDns : Bool) (target : TargetAddr) :
    HandshakeDialogue :=
  match socks5TargetAddr lookupHost remoteDns target with
  | .error err => .done (.error err)
  | .ok targetAddr => .send ([5,1,0]++targetAddr) (readSocks5ConnectResponse (.done (.ok ())))

/-- `connect_socks5_proxy` behind the connection. -/
def connectSocks5Proxy (lookupHost : LookupHost) (auth : Option Credentials) (remoteDns : Bool)
    (target : TargetAddr) : HandshakeDialogue :=
  socks5Authenticate auth (requestSocks5Target lookupHost remoteDns target)

/-! What is read of the replies -/

/-- The bound address of a reply, behind the reserved byte, and the bound port. -/
inductive Socks5Bound : Bytes → Prop
  | v4 {address port : Bytes} (len : address.length=4) (portLen : port.length=2) :
      Socks5Bound ([1]++address++port)
  | domain {name port : Bytes} (len : name.length ≤ 255) (portLen : port.length=2) :
      Socks5Bound ([3,UInt8.ofNat name.length]++name++port)
  | v6 {address port : Bytes} (len : address.length=16) (portLen : port.length=2) :
      Socks5Bound ([4]++address++port)

variable {closing : Closing IoError}

/-- Of a reply that grants the request all is read, whatever address it has. -/
theorem readSocks5ConnectResponse_run {bound : Bytes} (h : Socks5Bound bound) (reserved : UInt8)
    (next : HandshakeDialogue) (s : Bytes) :
    (readSocks5ConnectResponse next).run closing ([5,0,reserved]++bound++s) = next.run closing s := by
  unfold readSocks5ConnectResponse
  cases h with
  | @v4 address port len portLen =>
    have hsplit : [5,0,reserved]++([1]++address++port)++s=[5,0,reserved,1]++((address++port)++s) := by simp
    rw [hsplit,Dialogue.run_readExact_append (n := 4) rfl]
    have hlen : (address++port).length=6 := by rw [List.length_append,len,portLen]
    exact Dialogue.run_readExact_append hlen _ s
  | @domain name port len portLen =>
    have hsplit : [5,0,reserved]++([3,UInt8.ofNat name.length]++name++port)++s =
        [5,0,reserved,3]++([UInt8.ofNat name.length]++((name++port)++s)) := by simp
    have hname : (UInt8.ofNat name.length).toNat=name.length := by
      rw [UInt8.toNat_ofNat',Nat.mod_eq_of_lt (by omega)]
    have hlen : (name++port).length=(UInt8.ofNat name.length).toNat+2 := by
      rw [List.length_append,hname,portLen]
    rw [hsplit,Dialogue.run_readExact_append (n := 4) rfl]
    change (Dialogue.readExact 1 _).run closing _=_
    rw [Dialogue.run_readExact_append (n := 1) rfl]
    exact Dialogue.run_readExact_append hlen _ s
  | @v6 address port len portLen =>
    have hsplit : [5,0,reserved]++([4]++address++port)++s=[5,0,reserved,4]++((address++port)++s) := by simp
    rw [hsplit,Dialogue.run_readExact_append (n := 4) rfl]
    have hlen : (address++port).length=18 := by rw [List.length_append,len,portLen]
    exact Dialogue.run_readExact_append hlen _ s

/-- A proxy that asks for no password. -/
theorem socks5Authenticate_free (auth : Option Credentials) (next : HandshakeDialogue) (s : Bytes) :
    (socks5Authenticate auth next).run closing ([5,0]++s) =
      (next.run closing s).prepend (socks5Offer auth) := by
  unfold socks5Authenticate
  rw [Dialogue.run_send,Dialogue.run_readExact_append (n := 2) rfl]
  rfl

/-- A proxy that asks for the password and takes it. -/
theorem socks5Authenticate_password {auth : Credentials} {request : Bytes}
    (h : socks5PasswordRequest auth = .ok request) (next : HandshakeDialogue) (s : Bytes) :
    (socks5Authenticate (some auth) next).run closing ([5,2]++([1,0]++s)) =
      ((next.run closing s).prepend request).prepend (socks5Offer (some auth)) := by
  unfold socks5Authenticate
  rw [Dialogue.run_send,Dialogue.run_readExact_append (n := 2) rfl]
  change ((sendSocks5PasswordAuth auth next).run closing _).prepend _=_
  rw [sendSocks5PasswordAuth,h]
  dsimp only
  rw [Dialogue.run_send,Dialogue.run_readExact_append (n := 2) rfl,if_neg (by decide)]

end RotatorProxy.Outbound

import RotatorProxy.Library.Chunks
import RotatorProxy.Outbound.Resource
import RotatorProxy.Text.IpAddr

/-! The XPlus wrapper around a UDP socket: a packet is a random salt and a payload hidden under the
digest of the key and the salt. The inner socket may hand over and take several datagrams at once. -/
namespace RotatorProxy.Hysteria
open Text Outbound Library

/-- `XPLUS_SALT_LEN` -/
def saltLen : ℕ := 16

structure SocketAddr where
  ip : IpAddr
  port : UInt16
  deriving DecidableEq

/-- `quinn::udp::RecvMeta` -/
structure RecvMeta where
  addr : SocketAddr
  len : ℕ
  stride : ℕ
  ecn : Option UInt8
  dstIp : Option IpAddr
  deriving DecidableEq

/-- `quinn::udp::Transmit` -/
structure Transmit where
  destination : SocketAddr
  ecn : Option UInt8
  contents : Bytes
  segmentSize : Option ℕ
  srcIp : Option IpAddr
  deriving DecidableEq

/-- What a UDP socket says about itself. -/
structure SocketInfo where
  mayFragment : Bool
  maxTransmitSegments : ℕ
  maxReceiveSegments : ℕ
  localAddr : Except IoError SocketAddr

/-- The wrapper says the same as the socket inside. -/
def xplusInfo (inner : SocketInfo) : SocketInfo where
  mayFragment := inner.mayFragment
  maxTransmitSegments := inner.maxTransmitSegments
  maxReceiveSegments := inner.maxReceiveSegments
  localAddr := inner.localAddr

/-- A digest over and over, combined with the bytes from position `index` on. -/
def xorFrom (digest : Fin 32 → UInt8) : ℕ → Bytes → Bytes
  | _,[] => []
  | index,b::bytes => (b^^^digest (Fin.ofNat 32 index))::xorFrom digest (index+1) bytes

section Socket
variable (sha256 : Bytes → Fin 32 → UInt8) (key : Bytes)

/-- The loop of `deobfuscate_packet` over the last `n` bytes of the packet. -/
def deobfuscateLoop (digest : Fin 32 → UInt8) : (n index : ℕ) → Bytes → Bytes
  | 0,_,bytes => bytes
  | n+1,index,bytes =>
    let byte := bytes.getD index 0^^^digest (Fin.ofNat 32 (index-saltLen))
    deobfuscateLoop digest n (index+1) (bytes.set (index-saltLen) byte)

/-- The packet after it was worked on in place, and the length of its payload. -/
def deobfuscatePacket (bytes : Bytes) : Option (Bytes × ℕ) :=
  if bytes.length ≤ saltLen then none
  else
    let digest := sha256 (key++bytes.take saltLen)
    some (deobfuscateLoop digest (bytes.length-saltLen) saltLen bytes,bytes.length-saltLen)

/-- `salt` is what the random generator gives. -/
def obfuscatePayload (salt : Fin 16 → UInt8) (payload : Bytes) : Bytes :=
  List.ofFn salt++xorFrom (sha256 (key++List.ofFn salt)) 0 payload

/-- What the inner socket puts into the buffers: the first `count` of them, each as many bytes as
its meta says. -/
structure Batch where
  bufs : List Bytes
  metas : List RecvMeta
  count : ℕ
  metas_length : count ≤ metas.length
  fits : List.Forall₂ (fun buf (m : RecvMeta) => m.len ≤ buf.length) (bufs.take count) (metas.take count)

inductive InnerRecv
  | pending
  | failed (err : IoError)
  | ready (batch : Batch)

structure Received where
  count : ℕ
  bufs : List Bytes
  metas : List RecvMeta

inductive RecvResult
  | pending
  | failed (err : IoError)
  | ready (received : Received)

/-- The loop over one batch, with `n` slots to go from `index` on. -/
def recvLoop : (n index accepted : ℕ) → List Bytes → List RecvMeta → Received
  | 0,_,accepted,bufs,metas => ⟨accepted,bufs,metas⟩
  | n+1,index,accepted,bufs,metas =>
    match bufs[index]?,metas[index]? with
    | some buf,some m =>
      match deobfuscatePacket sha256 key (buf.take m.len) with
      | some (bytes,newLen) =>
        recvLoop n (index+1) (accepted+1) (bufs.set index (bytes++buf.drop m.len))
          (metas.set accepted {m with len := newLen})
      | none => recvLoop n (index+1) accepted bufs metas
    -- an index out of range would panic; a batch has none
    | _,_ => ⟨accepted,bufs,metas⟩

/-- `poll_recv`; the list is what the inner socket gives each time it is polled. -/
def pollRecv : List InnerRecv → Option RecvResult
  | [] => none
  | .pending::_ => some .pending
  | .failed err::_ => some (.failed err)
  | .ready batch::polls =>
    if batch.count=0 then some (.ready ⟨0,batch.bufs,batch.metas⟩)
    else
      let received := recvLoop sha256 key batch.count 0 0 batch.bufs batch.metas
      if 0 < received.count then some (.ready received) else pollRecv polls

/-- `try_send`: the transmit that the inner socket is given. -/
def trySend (salt : Fin 16 → UInt8) (transmit : Transmit) : Transmit where
  destination := transmit.destination
  ecn := transmit.ecn
  contents := obfuscatePayload sha256 key salt transmit.contents
  segmentSize := none
  srcIp := transmit.srcIp

end Socket

/-! What a packet and the datagrams in buffers and transmits stand for -/

/-- The loop of `deobfuscate_packet` into a buffer of its own: what it reads stays as it was received. -/
def deobfuscateInto (digest : Fin 32 → UInt8) (bytes : Bytes) : (n index : ℕ) → Bytes → Bytes
  | 0,_,out => out
  | n+1,index,out =>
    let byte := bytes.getD index 0^^^digest (Fin.ofNat 32 (index-saltLen))
    deobfuscateInto digest bytes n (index+1) (out.set (index-saltLen) byte)

structure Datagram where
  addr : SocketAddr
  bytes : Bytes
  deriving DecidableEq

/-- The datagrams that quinn takes out of one slot. -/
def slotDatagrams (buf : Bytes) (m : RecvMeta) : List Datagram :=
  (chunks m.stride (buf.take m.len)).map (Datagram.mk m.addr)

/-- The datagrams in the slots that have a meta; a meta that claims more than its buffer holds
panics. -/
def readSlots : List Bytes → List RecvMeta → Option (List Datagram)
  | buf::bufs,m::metas =>
    if m.len ≤ buf.length then (readSlots bufs metas).map (fun rest => slotDatagrams buf m++rest) else none
  | _,[] => some []
  | [],_::_ => none

def Received.datagrams (received : Received) : Option (List Datagram) :=
  readSlots received.bufs (received.metas.take received.count)

/-- The datagrams that the inner socket sends for a transmit. -/
def Transmit.datagrams (transmit : Transmit) : List Bytes :=
  match transmit.segmentSize with
  | none => [transmit.contents]
  | some size => chunks size transmit.contents

variable (sha256 : Bytes → Fin 32 → UInt8) (key : Bytes)

/-- The payload of a datagram that is long enough for a salt. -/
def payload (bytes : Bytes) : Bytes :=
  xorFrom (sha256 (key++bytes.take saltLen)) 0 (bytes.drop saltLen)

/-- What one datagram means to the receiver. -/
def deobfuscated (bytes : Bytes) : Option Bytes :=
  if saltLen < bytes.length then some (payload sha256 key bytes) else none

def slotPayloads (buf : Bytes) (m : RecvMeta) : List Datagram :=
  (chunks m.stride (buf.take m.len)).filterMap
    (fun bytes => (deobfuscated sha256 key bytes).map (Datagram.mk m.addr))

/-- The payloads of the datagrams that have arrived, in order. -/
def arrived : List Bytes → List RecvMeta → List Datagram
  | buf::bufs,m::metas => slotPayloads sha256 key buf m++arrived bufs metas
  | _,_ => []

def Batch.arrived (batch : Batch) : List Datagram :=
  Hysteria.arrived sha256 key (batch.bufs.take batch.count) (batch.metas.take batch.count)

end RotatorProxy.Hysteria

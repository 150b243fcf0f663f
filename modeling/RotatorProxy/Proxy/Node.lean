import Mathlib.Data.List.Forall2
import RotatorProxy.Text.IpAddr

/-! Proxy nodes, the keys that identify them, and the form in which the state file keeps them.
The crates behind them (SHA-256, the Shadowsocks configuration) and the builder of complex nodes
are parameters, gathered in `Externals`. -/
namespace RotatorProxy.Proxy
open Text

/-- `Display` of an endpoint: an IPv6 literal is put in brackets. -/
def displayHostPort (host : Str) (port : UInt16) : Str :=
  if ':' ∈ host ∧ (parseIpAddr host).isSome then
    '['::host++ "]:".toList++decimal port.toNat
  else host++ ':'::decimal port.toNat

/-- The state file may bring in any host, so only `HostPort.new` promises that it is not blank. -/
structure HostPort where
  host : Str
  port : UInt16
  deriving DecidableEq

def HostPort.new (host : Str) (port : UInt16) : Except Str HostPort :=
  if trim host=[] then .error "host 不能为空".toList else .ok ⟨host,port⟩

def HostPort.display (addr : HostPort) : Str := displayHostPort addr.host addr.port

structure Credentials where
  username : Str
  password : Option Str
  deriving DecidableEq

inductive YamlNumber
  | posInt (n : ℕ)
  | negInt (n : ℤ)
  | float (text : Str)
  deriving DecidableEq

/-- `serde_yaml::Value` -/
inductive YamlValue
  | null
  | bool (b : Bool)
  | number (n : YamlNumber)
  | string (s : Str)
  | sequence (items : List YamlValue)
  | mapping (entries : List (YamlValue × YamlValue))
  | tagged (tag : Str) (value : YamlValue)

structure MihomoProxyConfig where
  name : Str
  kind : Str
  value : YamlValue

/-- The adapter is left out: it is what `Externals.buildMeowNode` makes of `source`. -/
structure MeowProxyNode where
  key : Str
  label : Str
  source : MihomoProxyConfig

structure CipherKind where
  name : Str
  deriving DecidableEq

/-- `shadowsocks::ServerConfig`; every one of them is built from `ServerAddr::DomainName`. Of a
password of several keys `password()` is the last, and `identity_keys()` are those before it. -/
structure ServerConfig where
  host : Str
  port : UInt16
  password : Str
  method : CipherKind
  identityKeys : List Bytes
  deriving DecidableEq

/-- `Display` of a `ServerAddr::DomainName` -/
def ServerConfig.addr (server : ServerConfig) : Str :=
  server.host++ ':'::decimal server.port.toNat

inductive ProxyNode
  | http (addr : HostPort) (auth : Option Credentials)
  | https (addr : HostPort) (auth : Option Credentials) (sni : Option Str) (skipCertVerify : Bool)
  | socks5 (addr : HostPort) (auth : Option Credentials) (remoteDns : Bool)
  | socks4 (addr : HostPort) (auth : Option Credentials) (remoteDns : Bool)
  | shadowsocks (server : ServerConfig) (label : Str)
  | localMihomo (addr : HostPort) (label : Str) (generation : ℕ)
  | meow (node : MeowProxyNode)

/-- The code outside this model that nodes rest on. -/
structure Externals where
  sha256 : Bytes → Fin 32 → UInt8
  cipherKindFromStr : Str → Option CipherKind
  /-- `ServerConfig::new` -/
  serverConfigNew : Str → UInt16 → Str → CipherKind → Option ServerConfig
  buildMeowNode : MihomoProxyConfig → Option MeowProxyNode
  /-- `DefaultHasher` on a key -/
  defaultHash : Str → ℕ

def authKey : Option Credentials → Str
  | some auth => auth.username++ ':'::auth.password.getD []++['@']
  | none => []

def boolText (b : Bool) : Str := (if b then "true" else "false").toList

namespace ProxyNode

def label : ProxyNode → Str
  | http addr _ => "http://".toList++addr.display
  | https addr _ _ _ => "https://".toList++addr.display
  | socks5 addr _ remoteDns =>
    (if remoteDns then "socks5h" else "socks5").toList++"://".toList++addr.display
  | socks4 addr _ remoteDns =>
    (if remoteDns then "socks4a" else "socks4").toList++"://".toList++addr.display
  | shadowsocks _ label => label
  | localMihomo _ label _ => label
  | meow node => node.label

def key : ProxyNode → Str
  | http addr auth => "http://".toList++authKey auth++addr.display
  | https addr auth sni skipCertVerify =>
    "https://".toList++authKey auth++addr.display++"?sni=".toList++sni.getD []++
      "&skip-cert-verify=".toList++boolText skipCertVerify
  | socks5 addr auth remoteDns =>
    (if remoteDns then "socks5h" else "socks5").toList++"://".toList++authKey auth++addr.display
  | socks4 addr auth remoteDns =>
    (if remoteDns then "socks4a" else "socks4").toList++"://".toList++authKey auth++addr.display
  | shadowsocks server _ => "ss://".toList++server.method.name++ '@'::server.addr
  | localMihomo addr label generation =>
    "mihomo://".toList++decimal generation++ '/'::label++ '@'::addr.display
  | meow node => node.key

end ProxyNode

structure ProxyEntry where
  key : Str
  label : Str
  node : ProxyNode

def ProxyEntry.fromNode (node : ProxyNode) : ProxyEntry := ⟨node.key,node.label,node⟩

@[simp] theorem ProxyEntry.fromNode_key (node : ProxyNode) :
    (ProxyEntry.fromNode node).key = node.key := rfl

def entriesFromNodes (proxies : List ProxyNode) : List ProxyEntry := proxies.map ProxyEntry.fromNode

inductive ProxyChoice
  | direct
  | proxy (entry : ProxyEntry)

/-- `format!("{byte:02x}")` for every byte -/
def hexByte (b : UInt8) : Str := [(b.toNat/16).digitChar,(b.toNat%16).digitChar]

def proxyKeyHash (env : Externals) (key : Str) : Str :=
  (List.ofFn (env.sha256 (utf8 key))).flatMap hexByte

/-- The value of a lower-case hexadecimal digit. -/
def hexDigitValue (c : Char) : ℕ := if c.isDigit then c.toNat-48 else c.toNat-87

lemma hexDigitValue_digitChar (n : ℕ) (h : n < 16) : hexDigitValue n.digitChar=n := by
  revert n
  decide

theorem hexByte_injective : Function.Injective hexByte := by
  intro a b h
  have ha := a.toNat_lt
  have hb := b.toNat_lt
  simp only [hexByte,List.cons.injEq,and_true] at h
  have hhi := congrArg hexDigitValue h.1
  have hlo := congrArg hexDigitValue h.2
  rw [hexDigitValue_digitChar _ (by omega),hexDigitValue_digitChar _ (by omega)] at hhi hlo
  apply UInt8.toNat_inj.mp
  omega

theorem flatMap_hexByte_injective {as bs : List UInt8} (hlen : as.length=bs.length)
    (h : as.flatMap hexByte=bs.flatMap hexByte) : as=bs := by
  induction as generalizing bs with
  | nil => exact (List.length_eq_zero_iff.mp hlen.symm).symm
  | cons a as ih =>
    cases bs with
    | nil => cases hlen
    | cons b bs =>
      simp only [List.flatMap_cons] at h
      obtain ⟨h1,h2⟩ := List.append_inj h rfl
      rw [hexByte_injective h1,ih (Nat.succ.inj hlen) h2]

/-- No two keys of `U` have the same SHA-256 digest. -/
def NoCollision (env : Externals) (U : Set Str) : Prop :=
  Set.InjOn (fun key => env.sha256 (utf8 key)) U

theorem NoCollision.proxyKeyHash {env : Externals} {U : Set Str} (h : NoCollision env U) :
    Set.InjOn (proxyKeyHash env) U := by
  intro k hk k' hk' heq
  apply h hk hk'
  have := flatMap_hexByte_injective (by simp) heq
  exact List.ofFn_injective this

/-! The state file -/

inductive PersistedProxyNode
  | http (addr : HostPort) (auth : Option Credentials)
  | https (addr : HostPort) (auth : Option Credentials) (sni : Option Str) (skipCertVerify : Bool)
  | socks5 (addr : HostPort) (auth : Option Credentials) (remoteDns : Bool)
  | socks4 (addr : HostPort) (auth : Option Credentials) (remoteDns : Bool)
  | shadowsocks (host : Str) (port : UInt16) (method password label : Str)
  | meow (source : MihomoProxyConfig)

def persistedProxyNodeFromEntry (entry : ProxyEntry) : Option PersistedProxyNode :=
  match entry.node with
  | .http addr auth => some (.http addr auth)
  | .https addr auth sni skipCertVerify => some (.https addr auth sni skipCertVerify)
  | .socks5 addr auth remoteDns => some (.socks5 addr auth remoteDns)
  | .socks4 addr auth remoteDns => some (.socks4 addr auth remoteDns)
  | .shadowsocks server label =>
    some (.shadowsocks server.host server.port server.method.name server.password label)
  | .meow node => some (.meow node.source)
  | .localMihomo _ _ _ => none

/-- Both a failed and an empty rebuild leave the node out. -/
def proxyNodeFromPersisted (env : Externals) : PersistedProxyNode → Option ProxyNode
  | .http addr auth => some (.http addr auth)
  | .https addr auth sni skipCertVerify => some (.https addr auth sni skipCertVerify)
  | .socks5 addr auth remoteDns => some (.socks5 addr auth remoteDns)
  | .socks4 addr auth remoteDns => some (.socks4 addr auth remoteDns)
  | .shadowsocks host port method password label => do
    let method ← env.cipherKindFromStr method
    let server ← env.serverConfigNew host port password method
    return .shadowsocks server label
  | .meow source => (env.buildMeowNode source).map .meow

def restorePersistedProxyNodes (env : Externals) (nodes : List PersistedProxyNode) : List ProxyNode :=
  nodes.filterMap (proxyNodeFromPersisted env)

/-- The external part of a node is built again from its saved form: the cipher name is known, the
saved password makes a server that differs at most in its identity keys, and building the same
complex-node source again gives the same node. -/
def ProxyNode.Rebuilds (env : Externals) : ProxyNode → Prop
  | .shadowsocks server _ =>
    env.cipherKindFromStr server.method.name = some server.method ∧
      ∃ keys, env.serverConfigNew server.host server.port server.password server.method =
        some {server with identityKeys := keys}
  | .meow node => env.buildMeowNode node.source = some node
  | .localMihomo _ _ _ => False
  | _ => True

/-- What may come out of the saved form of a node: the node, or its server with other identity keys. -/
inductive ProxyNode.Restored : ProxyNode → ProxyNode → Prop
  | same (node : ProxyNode) : Restored node node
  | rekeyed (server : ServerConfig) (label : Str) (keys : List Bytes) :
    Restored (.shadowsocks server label) (.shadowsocks {server with identityKeys := keys} label)

lemma ProxyNode.Restored.key {node node' : ProxyNode} (h : node.Restored node') : node'.key=node.key := by
  cases h with
  | same => rfl
  | rekeyed => rfl

/-- Saving a node and loading it again gives a node of the same key, which can be saved again. -/
theorem persisted_round_trip (env : Externals) (node : ProxyNode) (h : node.Rebuilds env) :
    ∃ node', (persistedProxyNodeFromEntry (ProxyEntry.fromNode node)).bind (proxyNodeFromPersisted env) =
      some node' ∧ node.Restored node' ∧ node'.Rebuilds env := by
  cases node with
  | http addr auth => exact ⟨_,rfl,.same _,h⟩
  | https addr auth sni skip => exact ⟨_,rfl,.same _,h⟩
  | socks5 addr auth remoteDns => exact ⟨_,rfl,.same _,h⟩
  | socks4 addr auth remoteDns => exact ⟨_,rfl,.same _,h⟩
  | shadowsocks server label =>
    obtain ⟨hc,keys,hs⟩ := h
    refine ⟨.shadowsocks {server with identityKeys := keys} label,?_,.rekeyed server label keys,hc,keys,hs⟩
    simp [persistedProxyNodeFromEntry,ProxyEntry.fromNode,proxyNodeFromPersisted,hc,hs]
  | localMihomo addr label generation => exact h.elim
  | meow node =>
    have hb : env.buildMeowNode node.source = some node := h
    refine ⟨.meow node,?_,.same _,h⟩
    simp [persistedProxyNodeFromEntry,ProxyEntry.fromNode,proxyNodeFromPersisted,hb]

/-- A list of such nodes survives the file in its order. -/
theorem restore_persisted (env : Externals) (nodes : List ProxyNode)
    (h : ∀ node ∈ nodes, node.Rebuilds env) :
    List.Forall₂ (fun node node' => node.Restored node' ∧ node'.Rebuilds env) nodes
      (restorePersistedProxyNodes env ((entriesFromNodes nodes).filterMap persistedProxyNodeFromEntry)) := by
  induction nodes with
  | nil => exact .nil
  | cons node nodes ih =>
    obtain ⟨node',hnode,hrestored⟩ := persisted_round_trip env node (h node List.mem_cons_self)
    have htail := ih (fun n hn => h n (List.mem_cons_of_mem _ hn))
    obtain ⟨saved,hsaved,hback⟩ := Option.bind_eq_some_iff.mp hnode
    simp only [restorePersistedProxyNodes,entriesFromNodes,List.map_cons,List.filterMap_cons,hsaved,
      hback] at htail ⊢
    exact .cons hrestored htail

/-! A node for concrete runs -/

def sampleNode : ProxyNode := .http ⟨"127.0.0.1".toList,1⟩ none

/-- The SHA-256 digest of `http://127.0.0.1:1` -/
def sampleDigest : List UInt8 :=
  [16,216,235,57,68,147,32,178,197,128,132,16,255,68,202,2,
    227,99,52,22,212,111,96,212,32,119,185,224,5,28,45,23]

/-- Enough of the outside code for a pool whose only node is `sampleNode`. -/
def sampleExternals : Externals where
  sha256 bytes i := if bytes=utf8 "http://127.0.0.1:1".toList then sampleDigest.getD i 0 else 0
  cipherKindFromStr _ := none
  serverConfigNew _ _ _ _ := none
  buildMeowNode _ := none
  defaultHash _ := 0

end RotatorProxy.Proxy

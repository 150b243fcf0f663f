import RotatorProxy.Proxy.Lifecycle

/-! Restarts: whatever was done to a pool, and whatever file it was first built from, a pool built
from the file that it leaves has the keys of its nodes, its disabled nodes and its retired hashes. Of
the nodes themselves a Shadowsocks server loses its identity keys, which the file does not keep. -/
namespace RotatorProxy.Proxy
open Text Library

variable {env : Externals} {U : Set Str} {node : ProxyNode}

/-! What a password makes of a Shadowsocks server -/

/-- The last of the keys that a password is made of. -/
def lastKey (password : Str) : Str := password.rtakeWhile (fun c => c ≠ ':')

lemma lastKey_notMem (password : Str) : ':' ∉ lastKey password := by
  intro h
  simpa using List.mem_rtakeWhile_imp h

lemma lastKey_self {password : Str} (h : ':' ∉ password) : lastKey password=password := by
  apply List.rtakeWhile_eq_self_iff.mpr
  intro c hc
  simpa using fun heq : c = ':' => h (heq ▸ hc)

/-- `ServerConfig::new` as the crate documents it. With a cipher that has identity headers a password
is a list of keys: the last is what `password()` returns, and every one before it is an identity key.
With the other ciphers it is one secret. -/
structure ShadowsocksCrate (env : Externals) (identityHeaders : CipherKind → Prop) : Prop where
  address : ∀ {host port password method server}, env.serverConfigNew host port password method=some server →
    server.host=host ∧ server.port=port ∧ server.method=method
  whole : ∀ {host port password method server}, ¬identityHeaders method →
    env.serverConfigNew host port password method=some server →
      server.password=password ∧ server.identityKeys=[]
  keys : ∀ {host port password method server}, identityHeaders method →
    env.serverConfigNew host port password method=some server →
      server.password=lastKey password ∧ server.identityKeys.length=password.count ':'
  single : ∀ {host port password method server}, identityHeaders method →
    env.serverConfigNew host port password method=some server →
      (env.serverConfigNew host port (lastKey password) method).isSome

variable {identityHeaders : CipherKind → Prop}

/-- What `password()` returns makes the same server again but for its identity keys. -/
theorem ShadowsocksCrate.again (hcrate : ShadowsocksCrate env identityHeaders) {host : Str} {port : UInt16}
    {password : Str} {method : CipherKind} {server : ServerConfig}
    (h : env.serverConfigNew host port password method=some server) :
    env.serverConfigNew host port server.password method=some {server with identityKeys := []} := by
  obtain ⟨hhost,hport,hmethod⟩ := hcrate.address h
  by_cases hheaders : identityHeaders method
  · obtain ⟨hpassword,_⟩ := hcrate.keys hheaders h
    obtain ⟨again,hagain⟩ := Option.isSome_iff_exists.mp (hcrate.single hheaders h)
    obtain ⟨hhost',hport',hmethod'⟩ := hcrate.address hagain
    obtain ⟨hpassword',hkeys⟩ := hcrate.keys hheaders hagain
    rw [lastKey_self (lastKey_notMem password)] at hpassword'
    rw [List.count_eq_zero_of_not_mem (lastKey_notMem password),List.length_eq_zero_iff] at hkeys
    rw [hpassword,hagain]
    obtain ⟨host,port,password,method,keys⟩ := server
    obtain ⟨host',port',password',method',keys'⟩ := again
    simp_all
  · obtain ⟨hpassword,hkeys⟩ := hcrate.whole hheaders h
    rw [hpassword,h]
    obtain ⟨host,port,password,method,keys⟩ := server
    simp_all

/-! Nodes in the state file -/

/-- The node has been made by the crate or the builder that makes nodes of its kind, and the name of
its cipher is known. -/
def ProxyNode.Built (env : Externals) : ProxyNode → Prop
  | .shadowsocks server _ =>
    env.cipherKindFromStr server.method.name = some server.method ∧
      ∃ password, env.serverConfigNew server.host server.port password server.method = some server
  | .meow node => env.buildMeowNode node.source = some node
  | .localMihomo _ _ _ => False
  | _ => True

theorem ProxyNode.Built.rebuilds (hcrate : ShadowsocksCrate env identityHeaders) (h : node.Built env) :
    node.Rebuilds env := by
  cases node with
  | http | https | socks5 | socks4 => trivial
  | localMihomo => exact h.elim
  | meow node => exact h
  | shadowsocks server label =>
    obtain ⟨hcipher,password,hserver⟩ := h
    exact ⟨hcipher,[],hcrate.again hserver⟩

def ProxyNode.identityKeys : ProxyNode → List Bytes
  | .shadowsocks server _ => server.identityKeys
  | _ => []

def ProxyNode.withoutIdentityKeys : ProxyNode → ProxyNode
  | .shadowsocks server label => .shadowsocks {server with identityKeys := []} label
  | node => node

def ProxyNode.address : ProxyNode → Option (Str × UInt16)
  | .http addr _ | .https addr _ _ _ | .socks5 addr _ _ | .socks4 addr _ _ | .localMihomo addr _ _ =>
    some (addr.host,addr.port)
  | .shadowsocks server _ => some (server.host,server.port)
  | .meow _ => none

/-- What a node proves itself with; a complex node has that, and its address, in its source. -/
inductive Secrets
  | login (auth : Option Credentials)
  | keys (password : Str) (identityKeys : List Bytes)
  | settings (source : MihomoProxyConfig)

def ProxyNode.credentials : ProxyNode → Secrets
  | .http _ auth | .https _ auth _ _ | .socks5 _ auth _ | .socks4 _ auth _ => .login auth
  | .localMihomo _ _ _ => .login none
  | .shadowsocks server _ => .keys server.password server.identityKeys
  | .meow node => .settings node.source

/-- The file gives the node back with its key, its address and its credentials. -/
def ProxyEntry.Survives (env : Externals) (entry : ProxyEntry) : Prop :=
  ∃ node', (persistedProxyNodeFromEntry entry).bind (proxyNodeFromPersisted env)=some node' ∧
    node'.key=entry.node.key ∧ node'.address=entry.node.address ∧ node'.credentials=entry.node.credentials

/-- What comes out of the file is the node without identity keys. -/
theorem ProxyNode.Rebuilds.round_trip (hcrate : ShadowsocksCrate env identityHeaders) (h : node.Rebuilds env) :
    (persistedProxyNodeFromEntry (.fromNode node)).bind (proxyNodeFromPersisted env)=
      some node.withoutIdentityKeys := by
  cases node with
  | http | https | socks5 | socks4 => rfl
  | localMihomo => exact h.elim
  | meow node =>
    have hb : env.buildMeowNode node.source = some node := h
    simp [persistedProxyNodeFromEntry,ProxyEntry.fromNode,proxyNodeFromPersisted,hb,withoutIdentityKeys]
  | shadowsocks server label =>
    obtain ⟨hcipher,keys,hserver⟩ := h
    -- its own password has no identity keys in front
    have hagain := hcrate.again hserver
    dsimp only at hagain
    simp [persistedProxyNodeFromEntry,ProxyEntry.fromNode,proxyNodeFromPersisted,hcipher,hagain,
      withoutIdentityKeys]

@[simp] lemma ProxyNode.withoutIdentityKeys_key : node.withoutIdentityKeys.key=node.key := by
  cases node <;> rfl

@[simp] lemma ProxyNode.withoutIdentityKeys_address : node.withoutIdentityKeys.address=node.address := by
  cases node <;> rfl

lemma ProxyNode.withoutIdentityKeys_credentials :
    node.withoutIdentityKeys.credentials=node.credentials ↔ node.identityKeys=[] := by
  cases node with
  | shadowsocks server label => simp [withoutIdentityKeys,credentials,identityKeys,eq_comm]
  | http | https | socks5 | socks4 | localMihomo | meow => exact iff_of_true rfl rfl

theorem ProxyNode.Rebuilds.same_secrets_iff (hcrate : ShadowsocksCrate env identityHeaders) (h : node.Rebuilds env) :
    (ProxyEntry.fromNode node).Survives env ↔ node.identityKeys=[] := by
  rw [ProxyEntry.Survives,h.round_trip hcrate,← ProxyNode.withoutIdentityKeys_credentials]
  simp [ProxyEntry.fromNode]

namespace Lifecycle
variable {s t : Lifecycle} {op : LifecycleOp}

/-- A pool built from any state file. -/
def startFrom (env : Externals) (cfg : PoolConfig) (proxies : List ProxyNode) (file : StateFile) : Lifecycle :=
  let pool := Pool.withRuntimeFailurePolicyAndState env cfg proxies file
  ⟨cfg,pool,pool.state.proxies⟩

/-- What every reachable state satisfies, whatever file it started from. -/
def Durable (env : Externals) (U : Set Str) (s : Lifecycle) : Prop :=
  s.cfg.persistent = true ∧ s.pool.Restorable env U (s.seen.map ProxyEntry.key)

theorem Durable.step (hU : Set.InjOn (proxyKeyHash env) U) (h : s.Durable env U)
    (hg : s.Allowed env U op) (ht : s.step env op = some t) : t.Durable env U := by
  obtain ⟨hc,hk⟩ := h
  have hactive := hk.1.active_ever
  cases step_does hk.1.records hg ht with
  | report key q seen effect =>
    have hq := hk.report hU hc seen effect
    exact ⟨hc,hq.congr_ever (seen_same hq.1.active_ever)⟩
  | nothing => exact ⟨hc,hk.congr_ever (seen_same hactive)⟩
  | merge proxies offered =>
    refine ⟨hc,(hk.merge hc offered).congr_ever (seen_added ?_ hactive)⟩
    rw [Pool.activeKeys,(Pool.merge_state env s.cfg s.pool proxies).1,Pool.mergeLocked_pool]
    exact List.map_append
  | restart cfg proxies persistent offered =>
    obtain ⟨q,added,hq,hkeys,hnext,_⟩ := hk.rebuild cfg persistent offered
    rw [hq]
    exact ⟨persistent,hnext.congr_ever (seen_added hkeys hactive)⟩

/-- The nodes have been made by their crates, and their keys lie in `U`. -/
def Made (env : Externals) (U : Set Str) (proxies : List ProxyNode) : Prop :=
  ∀ node ∈ proxies, node.Built env ∧ node.key ∈ U

/-- As `Allowed`, with nodes that have been made. -/
def Supplied (env : Externals) (U : Set Str) (s : Lifecycle) : LifecycleOp → Prop
  | .merge proxies => Made env U proxies
  | .restart cfg proxies => cfg.persistent = true ∧ Made env U proxies
  | op => s.Allowed env U op

lemma Made.offered (hcrate : ShadowsocksCrate env identityHeaders) {proxies : List ProxyNode}
    (h : Made env U proxies) : Offered env U proxies :=
  fun node hn => ⟨(h node hn).1.rebuilds hcrate,(h node hn).2⟩

lemma Supplied.allowed (hcrate : ShadowsocksCrate env identityHeaders) (h : s.Supplied env U op) :
    s.Allowed env U op := by
  cases op with
  | merge proxies => exact Made.offered hcrate h
  | restart cfg proxies => exact ⟨h.1,Made.offered hcrate h.2⟩
  | reportSuccess | reportFailure | recheckSuccess | recheckFailure => exact h

/-- The pool `q` stands where `s` stood: the same keys in their order, the same of them disabled after
the same number of failed rechecks, the same retired hashes. -/
structure SameStanding (s : Lifecycle) (q : Pool) : Prop where
  keys : q.activeKeys=s.activeKeys
  disabled : ∀ key ∈ s.activeKeys, disabledCount (q.failures key)=s.count key
  retired : ∀ h, h ∈ q.state.retiredHashes ↔ h ∈ s.retiredHashes

/-- The pool `q` stands where `s` stood, and the nodes of `s` survive the file. -/
structure RestartEquivalent (env : Externals) (s : Lifecycle) (q : Pool) : Prop where
  standing : s.SameStanding q
  nodes : ∀ entry ∈ s.pool.state.proxies, entry.Survives env

/-- A restart without more nodes leaves everything as it was exactly when no server in the pool has
identity keys. What it restores is always a pool of the same standing. -/
theorem restart_equivalent (hcrate : ShadowsocksCrate env identityHeaders) (hU : NoCollision env U)
    {cfg : PoolConfig} (hc : cfg.persistent = true) {proxies : List ProxyNode} {file : StateFile}
    (hfile : Made env U (Pool.filedNodes env file)) (hmade : Made env U proxies) {ops : List LifecycleOp}
    (hrun : Run (step env) (Supplied env U) (startFrom env cfg proxies file) ops s)
    {cfg' : PoolConfig} (hc' : cfg'.persistent = true) :
    ∃ q, Pool.withRuntimeFailurePolicyAndState env cfg' [] s.pool.file=q ∧ s.SameStanding q ∧
      (s.RestartEquivalent env q ↔ ∀ entry ∈ s.pool.state.proxies, entry.node.identityKeys=[]) ∧
      ∀ node : ProxyNode, node.Built env →
        ((ProxyEntry.fromNode node).Survives env ↔ node.identityKeys=[]) := by
  have hstart : (startFrom env cfg proxies file).Durable env U :=
    ⟨hc,Pool.built_restorable hc (hfile.offered hcrate) (hmade.offered hcrate)⟩
  obtain ⟨_,hlast⟩ := (hrun.mono fun s op h => h.allowed hcrate).invariant (Durable env U)
    (fun s op t hs hg ht => hs.step hU.proxyKeyHash hg ht) hstart
  obtain ⟨q,added,hq,hkeys,_,hret,hold,hadded,_⟩ :=
    hlast.rebuild cfg' hc' ((fun node hn => by cases hn) : Offered env U [])
  have hnone : added=[] := by
    rw [List.eq_nil_iff_forall_not_mem]
    intro e he
    cases (hadded e he).1
  rw [hnone,List.map_nil,List.append_nil] at hkeys
  have hstanding : s.SameStanding q := ⟨hkeys,hold,hret⟩
  have hentries : ∀ entry ∈ s.pool.state.proxies, entry.Survives env ↔ entry.node.identityKeys=[] := by
    intro entry he
    obtain ⟨heq,hrebuilds⟩ := hlast.1.entries entry he
    have hiff := hrebuilds.same_secrets_iff hcrate
    rwa [← heq] at hiff
  refine ⟨q,hq,hstanding,?_,fun node hbuilt => (hbuilt.rebuilds hcrate).same_secrets_iff hcrate⟩
  rw [← forall₂_congr hentries]
  exact ⟨RestartEquivalent.nodes,fun hnodes => ⟨hstanding,hnodes⟩⟩

/-- An older state file with one node, which has failed one recheck. -/
def sampleFile : StateFile :=
  .saved ⟨1,[.http ⟨"127.0.0.1".toList,1⟩ none],[⟨proxyKeyHash sampleExternals sampleNode.key,1⟩],[]⟩

/-- The crate makes no server in these runs. -/
lemma sample_crate : ShadowsocksCrate sampleExternals fun _ => False := by
  constructor <;> intros <;> contradiction

/-- The node fails a second recheck, and is still disabled after a restart. -/
theorem restart_equivalent_sample :
    ∃ s q, Run (step sampleExternals) (Supplied sampleExternals {sampleNode.key})
        (startFrom sampleExternals sampleConfig [] sampleFile) [.recheckFailure sampleNode.key] s ∧
      Pool.withRuntimeFailurePolicyAndState sampleExternals sampleConfig [] s.pool.file=q ∧
      q.activeKeys=[sampleNode.key] ∧ disabledCount (q.failures sampleNode.key)=some 2 ∧
      s.RestartEquivalent sampleExternals q := by
  have hfile : Made sampleExternals {sampleNode.key} (Pool.filedNodes sampleExternals sampleFile) := by
    intro node hn
    rw [show Pool.filedNodes sampleExternals sampleFile=[sampleNode] from rfl,List.mem_singleton] at hn
    subst hn
    exact ⟨trivial,rfl⟩
  have hrun := (.cons rfl trivial (.nil _) :
    Run (step sampleExternals) (Supplied sampleExternals {sampleNode.key})
      (startFrom sampleExternals sampleConfig [] sampleFile) [.recheckFailure sampleNode.key] _)
  obtain ⟨q,hq,hstanding,hequivalent,_⟩ := restart_equivalent sample_crate (Set.injOn_singleton _ _) rfl hfile
    (fun node hn => by cases hn) hrun (rfl : sampleConfig.persistent = true)
  refine ⟨_,q,hrun,hq,hstanding.keys.trans (by decide),?_,hequivalent.mpr ?_⟩
  · rw [hstanding.disabled sampleNode.key (by decide)]
    decide
  · intro entry he
    rw [List.mem_singleton.mp he]
    rfl

/-! A server with an identity key -/

def relayKey : Str := "AQEBAQEBAQEBAQEBAQEBAQ==".toList
def userKey : Str := "AgICAgICAgICAgICAgICAg==".toList
def keyedMethod : CipherKind := ⟨"2022-blake3-aes-128-gcm".toList⟩

/-- The crate with the two keys, which are base64 of sixteen bytes each. -/
def keyedExternals : Externals :=
  {sampleExternals with
    cipherKindFromStr := fun name => if name=keyedMethod.name then some keyedMethod else none
    serverConfigNew := fun host port password method =>
      if method ≠ keyedMethod then none
      else if password=userKey then some ⟨host,port,userKey,method,[]⟩
      else if password=relayKey++ ':'::userKey then some ⟨host,port,userKey,method,[List.replicate 16 1]⟩
      else none}

lemma keyed_crate : ShadowsocksCrate keyedExternals (· = keyedMethod) := by
  have hmade : ∀ {host port password method server},
      keyedExternals.serverConfigNew host port password method=some server → method=keyedMethod ∧
        ((password=userKey ∧ server=⟨host,port,userKey,method,[]⟩) ∨
          (password=relayKey++ ':'::userKey ∧ server=⟨host,port,userKey,method,[List.replicate 16 1]⟩)) := by
    intro host port password method server h
    unfold keyedExternals at h
    dsimp only at h
    split_ifs at h with hmethod huser hrelay
    · exact ⟨of_not_not hmethod,.inl ⟨huser,(Option.some.inj h).symm⟩⟩
    · exact ⟨of_not_not hmethod,.inr ⟨hrelay,(Option.some.inj h).symm⟩⟩
  constructor
  · intro host port password method server h
    obtain ⟨_,⟨_,rfl⟩ | ⟨_,rfl⟩⟩ := hmade h
    · exact ⟨rfl,rfl,rfl⟩
    · exact ⟨rfl,rfl,rfl⟩
  · intro host port password method server hother h
    exact absurd (hmade h).1 hother
  · intro host port password method server _ h
    obtain ⟨_,⟨rfl,rfl⟩ | ⟨rfl,rfl⟩⟩ := hmade h
    · exact (by decide : userKey=lastKey userKey ∧ 0=userKey.count ':')
    · exact (by decide : userKey=lastKey (relayKey++ ':'::userKey) ∧ 1=(relayKey++ ':'::userKey).count ':')
  · intro host port password method server _ h
    obtain ⟨rfl,⟨rfl,_⟩ | ⟨rfl,_⟩⟩ := hmade h
    · rfl
    · rfl

/-- The server of the password `relayKey:userKey`, with the identity keys that it has. -/
def keyedNode (identityKeys : List Bytes) : ProxyNode :=
  .shadowsocks ⟨"example.com".toList,8388,userKey,keyedMethod,identityKeys⟩ "ss".toList

/-- A node that needs its identity key has none after a restart. -/
theorem identity_keys_lost : ShadowsocksCrate keyedExternals (· = keyedMethod) ∧
    keyedExternals.serverConfigNew "example.com".toList 8388 (relayKey++ ':'::userKey) keyedMethod=
        some ⟨"example.com".toList,8388,userKey,keyedMethod,[List.replicate 16 1]⟩ ∧
      ∃ s, Run (step keyedExternals) (Supplied keyedExternals {(keyedNode []).key})
          (startFrom keyedExternals sampleConfig [] .absent) [.merge [keyedNode [List.replicate 16 1]]] s ∧
        s.pool.state.proxies=[.fromNode (keyedNode [List.replicate 16 1])] ∧
        (Pool.withRuntimeFailurePolicyAndState keyedExternals sampleConfig [] s.pool.file).state.proxies=
          [.fromNode (keyedNode [])] ∧
        ¬(ProxyEntry.fromNode (keyedNode [List.replicate 16 1])).Survives keyedExternals := by
  have hserver : keyedExternals.serverConfigNew "example.com".toList 8388 (relayKey++ ':'::userKey) keyedMethod=
      some ⟨"example.com".toList,8388,userKey,keyedMethod,[List.replicate 16 1]⟩ := by decide
  have hmade : Made keyedExternals {(keyedNode []).key} [keyedNode [List.replicate 16 1]] := by
    intro node hn
    rw [List.mem_singleton.mp hn]
    exact ⟨⟨rfl,_,hserver⟩,rfl⟩
  refine ⟨keyed_crate,hserver,_,.cons rfl hmade (.nil _),rfl,rfl,?_⟩
  rintro ⟨node',hback,_,_,hcredentials⟩
  have hnode : some (keyedNode [])=some node' := hback
  cases hnode
  cases hcredentials

end Lifecycle
end RotatorProxy.Proxy
